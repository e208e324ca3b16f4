import RecordFilter.Proofs.Compiler.NameResolution
import RecordFilter.Proofs.Query.Rewording

/-!
# Spacing and letter case

The tokens of a query may be written again with other blanks between them, and
names with letters of another case. A character and its capital may take up
different numbers of bytes, so all tokens after a name may move. But the lexemes
stay apart, the parser does not look at names, and the binder looks at their
lower-case mapping only; so the query compiles to the same filter.
-/

namespace RecordFilter

variable {α : Type}

/-! ## Writing tokens again -/

/-- The piece holds the token. A name may have letters of another case. -/
structure Token.IsRespelledBy (token : Token) (piece : Piece) : Prop where
  kind_eq : piece.kind = token.kind
  sameLetters : token.kind = .property →
    SameLetters piece.lexeme token.text.toList
  lexeme_eq : token.kind ≠ .property → piece.lexeme = token.text.toList

instance (left right : List Char) : Decidable (SameLetters left right) :=
  inferInstanceAs (Decidable (left.map lowercase = right.map lowercase))

instance (token : Token) (piece : Piece) :
    Decidable (token.IsRespelledBy piece) :=
  decidable_of_iff
    (piece.kind = token.kind ∧
      (token.kind = .property →
        SameLetters piece.lexeme token.text.toList) ∧
      (token.kind ≠ .property → piece.lexeme = token.text.toList))
    ⟨fun ⟨hkind, hletters, hlexeme⟩ => ⟨hkind, hletters, hlexeme⟩,
      fun hpiece => ⟨hpiece.kind_eq, hpiece.sameLetters, hpiece.lexeme_eq⟩⟩

/-- Some tokens written again with blanks around them. Only two tokens need
blanks between them. -/
structure Respelling (tokens : List Token) where
  pieces : List Piece
  trailing : List Char
  respelled : List.Forall₂ Token.IsRespelledBy tokens pieces
  separated : ∀ piece ∈ pieces.tail, piece.blanks ≠ []
  allBlank : ∀ piece ∈ pieces, AllBlank piece.blanks
  allBlank_trailing : AllBlank trailing

def Respelling.text {tokens : List Token} (respelling : Respelling tokens) :
    String :=
  String.ofList (Piece.spell respelling.pieces respelling.trailing)

namespace Respelling

variable {names : List String} {tokens : List Token} {pieces : List Piece}
variable {trailing : List Char}

theorem isLexeme_of_isRespelledBy {token : Token} {piece : Piece}
    (hpiece : token.IsRespelledBy piece)
    (htoken : token.IsSpelled names token.kind) {rest : List Char}
    (hend : EndsName rest) :
    IsLexeme names piece.kind piece.lexeme rest := by
  rcases htoken with ⟨-, other, hlexeme⟩
  rw [hpiece.kind_eq]
  by_cases hkind : token.kind = .property
  · have hsame := hpiece.sameLetters hkind
    rw [hkind] at hlexeme ⊢
    cases hlexeme with
    | property hname hletters hotherEnd =>
        exact .property hname (hsame.trans hletters) hend
  · rw [hpiece.lexeme_eq hkind]
    exact hlexeme.of_endsName fun _ => hend

theorem endsName_spell
    (hseparated : ∀ piece ∈ pieces, piece.blanks ≠ [])
    (hblank : ∀ piece ∈ pieces, AllBlank piece.blanks)
    (htrailing : AllBlank trailing) :
    EndsName (Piece.spell pieces trailing) := by
  cases pieces with
  | nil => exact endsName_of_allBlank htrailing
  | cons piece pieces =>
      have hgap := hseparated piece List.mem_cons_self
      have hblanks := hblank piece List.mem_cons_self
      exact endsName_append_of_allBlank hblanks hgap _

theorem readable (hspelled : ∀ token ∈ tokens, token.IsSpelled names token.kind)
    (hrespelled : List.Forall₂ Token.IsRespelledBy tokens pieces)
    (hseparated : ∀ piece ∈ pieces.tail, piece.blanks ≠ [])
    (hblank : ∀ piece ∈ pieces, AllBlank piece.blanks)
    (htrailing : AllBlank trailing) :
    Piece.Readable names pieces trailing := by
  induction hrespelled with
  | nil => exact htrailing
  | @cons token piece tokens pieces hpiece hrest ih =>
      rcases List.forall_mem_cons.mp hspelled with ⟨htoken, hspelled⟩
      rcases List.forall_mem_cons.mp hblank with ⟨hpieceBlank, hblank⟩
      have hend := endsName_spell hseparated hblank htrailing
      refine ⟨hpieceBlank, isLexeme_of_isRespelledBy hpiece htoken hend, ?_⟩
      apply ih hspelled _ hblank
      intro other hother
      exact hseparated other (List.mem_of_mem_tail hother)

end Respelling

/-! ## Names in small letters -/

/-- All texts but those of names, of which the lower-case mapping is taken. -/
def foldName : TokenKind → String → String
  | .property, text => String.ofList (text.toList.flatMap lowercase)
  | _, text => text

theorem foldName_of_ne {kind : TokenKind} (hkind : kind ≠ .property)
    (text : String) : foldName kind text = text := by
  cases kind with
  | property => contradiction
  | operator | connective | openBracket | closeBracket | value => rfl

namespace Token

variable {token other : Token}

theorem IsRespelledBy.reword_eq {piece : Piece}
    (hpiece : token.IsRespelledBy piece) (span : Span) :
    reword foldName ⟨piece.kind, String.ofList piece.lexeme, span⟩ =
      token.reword foldName := by
  have htext : foldName token.kind (String.ofList piece.lexeme) =
      foldName token.kind token.text := by
    by_cases hkind : token.kind = .property
    · have hletters := (hpiece.sameLetters hkind).flatMap_lowercase
      simp only [hkind, foldName, String.toList_ofList, hletters]
    · rw [hpiece.lexeme_eq hkind, String.ofList_toList]
  rw [reword, reword, hpiece.kind_eq, htext]

theorem map_reword_tokens {tokens : List Token} {pieces : List Piece}
    (hrespelled : List.Forall₂ IsRespelledBy tokens pieces) (position : Nat) :
    (Piece.tokens position pieces).map (·.reword foldName) =
      tokens.map (·.reword foldName) := by
  induction hrespelled generalizing position with
  | nil => rfl
  | cons hpiece hrest ih =>
      rw [Piece.tokens, List.map_cons, List.map_cons, ih, hpiece.reword_eq]

theorem foldName_eq_of_reword_eq
    (hsame : token.reword foldName = other.reword foldName) :
    foldName token.kind token.text = foldName token.kind other.text := by
  rcases Token.mk.inj hsame with ⟨hkind, htext, -⟩
  rw [← hkind] at htext
  exact htext

theorem text_eq_of_reword_eq (hkind : token.kind ≠ .property)
    (hsame : token.reword foldName = other.reword foldName) :
    token.text = other.text := by
  have htext := foldName_eq_of_reword_eq hsame
  rw [foldName_of_ne hkind, foldName_of_ne hkind] at htext
  exact htext

theorem flatMap_lowercase_eq_of_reword_eq (hkind : token.kind = .property)
    (hsame : token.reword foldName = other.reword foldName) :
    token.text.toList.flatMap lowercase =
      other.text.toList.flatMap lowercase := by
  have htext := foldName_eq_of_reword_eq hsame
  rw [hkind] at htext
  simpa [foldName] using congrArg String.toList htext

end Token

/-! ## Binding -/

namespace Schema

variable {schema : Schema α}

theorem bindComparison_of_reword_eq
    {property operator value otherProperty otherOperator otherValue : Token}
    (hproperty : property.kind = .property)
    (hoperator : operator.kind ≠ .property) (hvalue : value.kind ≠ .property)
    (hsameProperty :
      property.reword foldName = otherProperty.reword foldName)
    (hsameOperator :
      operator.reword foldName = otherOperator.reword foldName)
    (hsameValue : value.reword foldName = otherValue.reword foldName)
    {leaf : Comparison α}
    (hbind : schema.bindComparison property operator value = .ok leaf) :
    schema.bindComparison otherProperty otherOperator otherValue =
      .ok leaf := by
  have hname := Token.flatMap_lowercase_eq_of_reword_eq hproperty hsameProperty
  have hlexeme := Token.text_eq_of_reword_eq hoperator hsameOperator
  have hliteral := Token.text_eq_of_reword_eq hvalue hsameValue
  rw [bindComparison_eq_ok_iff] at hbind ⊢
  simpa only [sameName, hname, hlexeme, Token.literal, hliteral] using hbind

/-- Expressions that differ in the letters of names only are bound to the same
filter. -/
theorem bind_of_reword_eq {expr other : Expr}
    (hspelled : expr.IsSpelled schema.names)
    (hsame : expr.reword foldName = other.reword foldName) {filter : Filter α}
    (hbind : schema.bind expr = .ok filter) :
    schema.bind other = .ok filter := by
  induction expr generalizing other filter with
  | comparison property operator value =>
      cases other with
      | logical => contradiction
      | comparison otherProperty otherOperator otherValue =>
          rcases Expr.isSpelled_comparison hspelled with
            ⟨⟨hproperty, -⟩, ⟨hoperator, -⟩, ⟨hvalue, -⟩⟩
          rcases Expr.comparison.inj hsame with
            ⟨hsameProperty, hsameOperator, hsameValue⟩
          rcases bind_comparison_eq_ok_iff.mp hbind with ⟨leaf, hleaf, rfl⟩
          have hotherLeaf := bindComparison_of_reword_eq hproperty
            (by simp [hoperator]) (by simp [hvalue]) hsameProperty
            hsameOperator hsameValue hleaf
          exact bind_comparison_eq_ok_iff.mpr ⟨leaf, hotherLeaf, rfl⟩
  | logical connective left right ihLeft ihRight =>
      cases other with
      | comparison => contradiction
      | logical otherConnective otherLeft otherRight =>
          rcases Expr.isSpelled_logical hspelled with ⟨hleft, hright⟩
          rcases Expr.logical.inj hsame with ⟨rfl, hsameLeft, hsameRight⟩
          rcases bind_logical_eq_ok_iff.mp hbind with
            ⟨leftFilter, hleftBind, rightFilter, hrightBind, rfl⟩
          exact bind_logical_eq_ok_iff.mpr
            ⟨leftFilter, ihLeft hleft hsameLeft hleftBind, rightFilter,
              ihRight hright hsameRight hrightBind, rfl⟩

end Schema

/-! ## Queries -/

theorem Lexicon.tokenize_respelling {names : List String}
    (hnames : ∀ name ∈ names, IsFieldName name) {query : String}
    {tokens : List Token}
    (htokens : (ofNames names).tokenize query = .ok tokens)
    (respelling : Respelling tokens) :
    (ofNames names).tokenize respelling.text =
      .ok (Piece.tokens 0 respelling.pieces) := by
  rcases exists_readable_of_tokensFrom htokens with
    ⟨pieces, trailing, hpieces, -, rfl⟩
  have hreadable := Respelling.readable
    (Piece.isSpelled_of_mem_tokens hpieces 0) respelling.respelled
    respelling.separated respelling.allBlank respelling.allBlank_trailing
  rw [tokenize, Respelling.text, String.toList_ofList]
  exact tokensFrom_spell hnames hreadable 0

/-- A query that compiles without a limit on its length may be written again
with other blanks and other letters, and compiles to the same filter. -/
theorem Compiler.compile_respelling (compiler : Compiler α)
    (hlength : compiler.options.maxLength = none) {query : String}
    {predicate : Predicate α}
    (hcompile : compiler.compile query = .ok predicate) :
    ∃ tokens, compiler.tokenize query = .ok tokens ∧
      ∀ respelling : Respelling tokens, ∃ again,
        compiler.compile respelling.text = .ok again ∧
        again.filter = predicate.filter ∧
        again.filter.isSame predicate.filter = true := by
  rcases compile_eq_ok_iff_stages.mp hcompile with
    ⟨tokens, expr, filter, htokens, hparse, hbind, rfl⟩
  refine ⟨tokens, htokens, ?_⟩
  intro respelling
  have hlexed := (tokenize_eq_ok_iff.mp htokens).2
  have hrespelled := Lexicon.tokenize_respelling
    Schema.isFieldName_of_mem_names hlexed respelling
  have hagain : compiler.tokenize respelling.text =
      .ok (Piece.tokens 0 respelling.pieces) :=
    tokenize_eq_ok_iff.mpr ⟨by simp [hlength], hrespelled⟩
  have hwords := Token.map_reword_tokens respelling.respelled 0
  have hnumbers : ∀ leaf ∈ filter.comparisons, leaf.value.isNaN = false := by
    intro leaf hmem
    exact (Schema.isTyped_of_bind hbind leaf hmem).literal.not_nan
  rcases Expr.ofTokens_of_reword_eq foldName (fun _ => rfl)
      compiler.options.limits hwords.symm with
    ⟨first, other, hfirst, hother, hsame⟩ | ⟨error, _, hfails, -⟩
  · obtain rfl := Except.ok.inj (hparse.symm.trans hfirst)
    have hspelled := Expr.isSpelled_of_ofTokens hlexed hparse
    have hotherBind := Schema.bind_of_reword_eq hspelled hsame hbind
    exact
      ⟨_, compile_eq_ok_iff_stages.mpr
        ⟨_, other, filter, hagain, hother, hotherBind, rfl⟩, rfl,
        Filter.isSame_self hnumbers⟩
  · rw [hparse] at hfails
    contradiction

namespace Contact

def choiceQuery : String :=
  "age << '7' || nickname == 'a)'"

/-- The pieces of `choiceQuery`, with a Kelvin sign in place of a letter. -/
def respelledPieces : List Piece :=
  [⟨[], .property, "aGe".toList⟩, ⟨['\t'], .operator, "<<".toList⟩,
    ⟨[' ', '\n'], .value, "'7'".toList⟩,
    ⟨['\u3000'], .connective, "||".toList⟩,
    ⟨[' '], .property, "NIC\u212ANAME".toList⟩,
    ⟨[' '], .operator, "==".toList⟩, ⟨[' '], .value, "'a)'".toList⟩]

theorem exists_compile_choiceQuery :
    ∃ predicate, OnePass.contactCompiler.compile choiceQuery = .ok predicate ∧
      predicate.filter.comparisons.length = 2 := by
  apply Outcome.toOption_map_eq_some_iff.mp
  simp only [Compiler.compile, Compiler.bind, Compiler.parse,
    Compiler.tokenize, Compiler.lexicon, Lexicon.ofNames_eq_insertionSort]
  decide +kernel

theorem exists_tokenize_choiceQuery :
    ∃ tokens, OnePass.contactCompiler.tokenize choiceQuery = .ok tokens ∧
      decide (List.Forall₂ Token.IsRespelledBy tokens respelledPieces) =
        true := by
  apply Outcome.toOption_map_eq_some_iff.mp
  simp only [Compiler.tokenize, Compiler.lexicon,
    Lexicon.ofNames_eq_insertionSort]
  decide +kernel

theorem separated_respelledPieces :
    ∀ piece ∈ respelledPieces.tail, piece.blanks ≠ [] := by
  decide

theorem allBlank_respelledPieces :
    ∀ piece ∈ respelledPieces, AllBlank piece.blanks := by
  have hall : (respelledPieces.all (·.blanks.all isBlank)) = true := by
    decide +kernel
  intro piece hpiece
  exact List.all_eq_true.mp (List.all_eq_true.mp hall piece hpiece)

theorem compile_respelling_choiceQuery :
    ∃ predicate again,
      OnePass.contactCompiler.compile choiceQuery = .ok predicate ∧
      OnePass.contactCompiler.compile
        "aGe\t<< \n'7'\u3000|| NIC\u212ANAME == 'a)' " = .ok again ∧
      again.filter = predicate.filter ∧
      again.filter.isSame predicate.filter = true := by
  rcases exists_compile_choiceQuery with ⟨predicate, hcompile, -⟩
  rcases OnePass.contactCompiler.compile_respelling rfl hcompile with
    ⟨tokens, htokens, hrespelled⟩
  have hpieces : List.Forall₂ Token.IsRespelledBy tokens respelledPieces := by
    rcases exists_tokenize_choiceQuery with ⟨others, hothers, hdecided⟩
    rcases Except.ok.inj (htokens.symm.trans hothers) with rfl
    exact of_decide_eq_true hdecided
  rcases hrespelled ⟨respelledPieces, [' '], hpieces,
    separated_respelledPieces, allBlank_respelledPieces, allBlank_space⟩ with
    ⟨again, hagain, hsame⟩
  exact ⟨predicate, again, hcompile, hagain, hsame⟩

end Contact
end RecordFilter

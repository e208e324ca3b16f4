import RecordFilter.Proofs.Compiler.Stages
import RecordFilter.Proofs.Query.Coverage
import RecordFilter.Proofs.Query.ErrorPositions
import RecordFilter.Proofs.Query.FirstUnmatched

/-!
# Positions of errors cut queries

A query can be cut at the position of every error that its compilation raises.
The lexer stops before a character of the query. The parser points to an end of
one of the tokens, or to the start of a query without tokens, and tokens begin
and end between characters. Longer queries than the options allow are refused
before either looks at them.
-/

namespace RecordFilter

variable {α : Type}

theorem Schema.covers_of_lexed (schema : Schema α) {query : String}
    {tokens : List Token}
    (htokens : (Lexicon.ofNames schema.names).tokenize query = .ok tokens) :
    Covers query tokens := by
  rcases Lexicon.exists_readable_of_tokensFrom htokens with
    ⟨pieces, trailing, hreadable, hspell, rfl⟩
  have hnames : ∀ name ∈ schema.names, name.toList ≠ [] :=
    fun name hname => (schema.isFieldName_of_mem_names name hname).1
  exact Piece.covers_tokens hnames hreadable hspell

theorem IsTokenPlace.isValid {query : String} {tokens : List Token}
    (hcovers : Covers query tokens) {position : Nat}
    (hplace : IsTokenPlace tokens position) :
    String.Pos.Raw.IsValid query ⟨position⟩ := by
  cases hplace with
  | start htoken => exact (hcovers.boundaries _ htoken).1
  | stop hlast =>
      exact (hcovers.boundaries _ (List.mem_of_getLast? hlast)).2
  | origin hnone => exact String.Pos.Raw.isValid_zero

theorem Lexicon.cuts_of_tokenize_error {names : List String} {query : String}
    {error : LexError}
    (herror : (ofNames names).tokenize query = .error error) :
    error.position < query.utf8ByteSize ∧
      String.Pos.Raw.IsValid query ⟨error.position⟩ := by
  rcases exists_readable_of_tokensFrom_error herror with
    ⟨pieces, trailing, c, rest, -, hsplit, -, -, rfl⟩
  have hc := c.utf8Size_pos
  simp only [LexError.ofRest, Nat.zero_add]
  refine ⟨?_, isValid_of_split hsplit⟩
  rw [← utf8Length_toList, hsplit, utf8Length_append, utf8Length_cons]
  omega

/-- A lexical error stands before a character of the query. An error of the
parser stands where a token of the query starts, where its last token ends, or
at the start of a query without tokens, and all of these are positions between
characters. Only queries within the length that the options allow are looked at,
and only those that are all tokens are parsed. -/
theorem Compiler.errors_cut_query (compiler : Compiler α) (query : String) :
    (∀ error, compiler.compile query = .error (.lex error) →
      compiler.Admits query ∧ error.position < query.utf8ByteSize ∧
        String.Pos.Raw.IsValid query ⟨error.position⟩) ∧
    (∀ error, compiler.compile query = .error (.parse error) →
      compiler.Admits query ∧
        ∃ tokens, compiler.lexicon.tokenize query = .ok tokens ∧
          IsTokenPlace tokens error.position ∧
          String.Pos.Raw.IsValid query ⟨error.position⟩ ∧
          error.position ≤ query.utf8ByteSize) ∧
    ∀ error, compiler.compile query = .error (.bind error) →
      compiler.Admits query := by
  refine ⟨?_, ?_, ?_⟩
  · intro error hcompile
    cases failsWith_of_compile hcompile with
    | lex hfits herror => exact ⟨hfits, Lexicon.cuts_of_tokenize_error herror⟩
  · intro error hcompile
    cases failsWith_of_compile hcompile with
    | parse htokens herror =>
        rcases tokenize_eq_ok_iff.mp htokens with ⟨hfits, hlexed⟩
        have hplace := Expr.isTokenPlace_of_ofTokens herror
        have hcovers := compiler.schema.covers_of_lexed hlexed
        have hvalid := hplace.isValid hcovers
        exact ⟨hfits, _, hlexed, hplace, hvalid, hvalid.le_rawEndPos⟩
  · intro error hcompile
    cases failsWith_of_compile hcompile with
    | bind htokens hparse herror => exact (tokenize_eq_ok_iff.mp htokens).1

namespace Contact

/-- A compiler for queries of at most forty bytes. -/
def shortCompiler : Compiler Contact where
  schema := schema
  options := { maxLength := some 40 }

/-- Behind a letter of two bytes and a blank of three bytes stands a word that
is no name. -/
def misnamedQuery : String := "age == '\u00FC' &&\u3000Nicknames == 'abc'"

/-- There the query ends within a comparison. -/
def cutQuery : String := "Age == '\u00FC' &&\u3000Nickname =="

theorem compile_misnamedQuery :
    shortCompiler.compile misnamedQuery =
      .error (.lex ⟨17, "Nicknames == 'ab"⟩) := by
  apply (Outcome.map_eq_error_iff (f := fun _ => ())).mp
  simp only [Compiler.compile, Compiler.bind, Compiler.parse,
    Compiler.tokenize, Compiler.lexicon, Lexicon.ofNames_eq_insertionSort]
  decide +kernel

theorem compile_cutQuery :
    shortCompiler.compile cutQuery =
      .error (.parse (.wrongOrder
        (.wrongKind .value ⟨.operator, "==", ⟨26, 28⟩⟩ none) 28)) := by
  apply (Outcome.map_eq_error_iff (f := fun _ => ())).mp
  simp only [Compiler.compile, Compiler.bind, Compiler.parse,
    Compiler.tokenize, Compiler.lexicon, Lexicon.ofNames_eq_insertionSort]
  decide +kernel

theorem errors_cut_query_nicknames :
    shortCompiler.compile misnamedQuery =
        .error (.lex ⟨17, "Nicknames == 'ab"⟩) ∧
      17 < misnamedQuery.utf8ByteSize ∧
      String.Pos.Raw.IsValid misnamedQuery ⟨17⟩ ∧
      shortCompiler.compile cutQuery =
        .error (.parse (.wrongOrder
          (.wrongKind .value ⟨.operator, "==", ⟨26, 28⟩⟩ none) 28)) ∧
      String.Pos.Raw.IsValid cutQuery ⟨28⟩ := by
  rcases shortCompiler.errors_cut_query misnamedQuery with ⟨hlex, -, -⟩
  rcases shortCompiler.errors_cut_query cutQuery with ⟨-, hparse, -⟩
  rcases hlex _ compile_misnamedQuery with ⟨-, hinside, hmisnamedValid⟩
  rcases hparse _ compile_cutQuery with ⟨-, _, -, -, hcutValid, -⟩
  exact
    ⟨compile_misnamedQuery, hinside, hmisnamedValid, compile_cutQuery,
      hcutValid⟩

end Contact

end RecordFilter

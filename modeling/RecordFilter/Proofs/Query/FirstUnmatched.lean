import RecordFilter.Proofs.Query.Reading
import RecordFilter.Proofs.Schema.Fields
import RecordFilter.Proofs.Text.BytePosition

/-!
# Where lexing fails

A query that cannot be tokenized is read up to a character at which no lexeme
starts, and this is the place of the error. The part before it can be tokenized
on its own. Cutting the query there lets no other name match: the lexemes that
were read may stand before the end of a text as well, and a text is divided into
lexemes in one way at most.
-/

namespace RecordFilter

/-! ## Less after a lexeme -/

theorem EndsName.of_append {front back : List Char}
    (hend : EndsName (front ++ back)) : EndsName front := by
  cases front with
  | nil => simp [EndsName]
  | cons c front => exact hend

theorem IsLexeme.of_append_rest {names : List String} {kind : TokenKind}
    {lexeme rest more : List Char}
    (hlexeme : IsLexeme names kind lexeme (rest ++ more)) :
    IsLexeme names kind lexeme rest := by
  apply hlexeme.of_endsName
  rintro rfl
  cases hlexeme with
  | property hname hsame hend => exact hend.of_append

/-! ## What has been read before an error -/

namespace Lexicon

variable {names : List String}

/-- The lexemes that were read may also stand before the end of the text. -/
theorem exists_readable_of_tokensFrom_error {position : Nat}
    {text : List Char} {error : LexError}
    (herror : (ofNames names).tokensFrom position text = .error error) :
    ∃ pieces trailing c rest, Piece.Readable names pieces trailing ∧
      text = Piece.spell pieces trailing ++ c :: rest ∧
      isBlank c = false ∧ (ofNames names).token? (c :: rest) = none ∧
      error =
        .ofRest (position + utf8Length (Piece.spell pieces trailing))
          (c :: rest) := by
  fun_induction tokensFrom (ofNames names) position text
    generalizing error with
  | case1 => contradiction
  | case2 position c rest hblank ih =>
      obtain ⟨pieces, trailing, d, stuck, hreadable, rfl, hd, hnone, rfl⟩ :=
        ih herror
      obtain ⟨further, after, hfurther, hspell, -⟩ :=
        exists_readable_cons hblank hreadable position
      refine ⟨further, after, d, stuck, hfurther, ?_, hd, hnone, ?_⟩
      · rw [hspell, List.cons_append]
      · rw [hspell, utf8Length_cons, Nat.add_assoc]
  | case3 position c rest hblank hnone =>
      obtain rfl := Except.error.inj herror
      refine ⟨[], [], c, rest, allBlank_nil, rfl, ?_, hnone, rfl⟩
      simpa using hblank
  | case4 position c rest hblank kind length htoken lexeme stop failure
      hfailure =>
      rename_i ih
      obtain rfl := Except.error.inj herror
      obtain ⟨pieces, trailing, d, stuck, hreadable, hsplit, hd, hnone, rfl⟩ :=
        ih hfailure
      have hlexeme : IsLexeme names kind lexeme (rest.drop (length - 1)) :=
        isLexeme_of_token? htoken
      -- Without the part that was not read, nothing continues the name either.
      rw [hsplit] at hlexeme
      refine
        ⟨⟨[], kind, lexeme⟩ :: pieces, trailing, d, stuck,
          ⟨allBlank_nil, hlexeme.of_append_rest, hreadable⟩, ?_, hd, hnone, ?_⟩
      · rw [Piece.spell, List.nil_append, List.append_assoc, ← hsplit]
        simp [lexeme, List.take_append_drop]
      · rw [Piece.spell, List.nil_append, utf8Length_append, ← Nat.add_assoc]
  | case5 => contradiction

end Lexicon

/-! ## The place of an error -/

/-- The query is read up to the place of the error, where no lexeme starts. -/
structure LexError.IsFirstUnmatched (names : List String) (query : String)
    (error : LexError) : Prop where
  isValid : String.Pos.Raw.IsValid query ⟨error.position⟩
  inside : error.position < query.utf8ByteSize
  not_blank : isBlank (String.Pos.Raw.get query ⟨error.position⟩) = false
  front_read : ∃ tokens, (Lexicon.ofNames names).tokenize
    (String.Pos.Raw.extract query 0 ⟨error.position⟩) = .ok tokens
  no_lexeme : ∀ kind lexeme rest,
    (String.Pos.Raw.extract query ⟨error.position⟩ query.rawEndPos).toList =
      lexeme ++ rest → ¬IsLexeme names kind lexeme rest
  unexpected_prefix : error.unexpected.toList <+:
    (String.Pos.Raw.extract query ⟨error.position⟩ query.rawEndPos).toList
  unexpected_length : error.unexpected.length = min 16
    (String.Pos.Raw.extract query ⟨error.position⟩ query.rawEndPos).length

/-- The error of a query that cannot be tokenized stands at the first character
that no token and no gap covers. -/
theorem Schema.isFirstUnmatched_of_tokenize {α : Type} (schema : Schema α)
    {query : String} {error : LexError}
    (herror : (Lexicon.ofNames schema.names).tokenize query = .error error) :
    error.IsFirstUnmatched schema.names query := by
  have hnames := schema.isFieldName_of_mem_names
  obtain ⟨pieces, trailing, c, rest, hreadable, hsplit, hblank, hnone, rfl⟩ :=
    Lexicon.exists_readable_of_tokensFrom_error herror
  rw [Nat.zero_add]
  have hback := extract_back_of_split hsplit
  refine ⟨isValid_of_split hsplit, ?_, ?_, ?_, ?_, ?_, ?_⟩
  · have hc := c.utf8Size_pos
    rw [← utf8Length_toList, hsplit, utf8Length_append, utf8Length_cons]
    simp only [LexError.ofRest]
    omega
  · rw [LexError.ofRest, get_of_split hsplit]
    exact hblank
  · refine ⟨Piece.tokens 0 pieces, ?_⟩
    rw [LexError.ofRest, extract_front_of_split hsplit, Lexicon.tokenize,
      String.toList_ofList]
    exact Lexicon.tokensFrom_spell hnames hreadable 0
  · intro kind lexeme after hafter hlexeme
    rw [LexError.ofRest, hback, String.toList_ofList] at hafter
    have hsome := Lexicon.token?_isSome hnames hlexeme
    rw [← hafter, hnone] at hsome
    contradiction
  · rw [LexError.ofRest, hback, String.toList_ofList, String.toList_ofList]
    exact List.take_prefix _ _
  · rw [LexError.ofRest, hback, String.length_ofList, String.length_ofList]
    exact List.length_take

/-- The nickname would be a lexeme if no letter followed it. What is before it
has characters of two and of three bytes. -/
theorem Contact.isFirstUnmatched_nicknames :
    let query := "age == '\u00FC' &&\u3000Nicknames == 'abc'"
    let error : LexError := ⟨17, "Nicknames == 'ab"⟩
    (Lexicon.ofNames schema.names).tokenize query = .error error ∧
      error.IsFirstUnmatched schema.names query := by
  intro query error
  have herror :
      (Lexicon.ofNames schema.names).tokenize query = .error error := by
    rw [Lexicon.ofNames_eq_insertionSort]
    decide +kernel
  exact ⟨herror, schema.isFirstUnmatched_of_tokenize herror⟩

end RecordFilter

import RecordFilter.Proofs.Query.RoundTrip
import RecordFilter.Proofs.Text.BytePosition

/-!
# Lexing one text after another

The lexer keeps nothing in mind but its place. So where it starts only moves its
tokens and errors, and a text that it accepts is read in the same way whatever
comes after it, if no name of the text is continued: quoted values are closed,
and all other lexemes have a fixed length. After a blank the next text is
therefore read as it is read alone.
-/

namespace RecordFilter

/-! ## Moving tokens and errors -/

def Span.shift (offset : Nat) (span : Span) : Span :=
  ⟨span.start + offset, span.stop + offset⟩

def Token.shift (offset : Nat) (token : Token) : Token :=
  { token with span := token.span.shift offset }

def LexError.shift (offset : Nat) (error : LexError) : LexError :=
  { error with position := error.position + offset }

theorem Lexicon.tokensFrom_add (lexicon : Lexicon) (offset position : Nat)
    (text : List Char) :
    lexicon.tokensFrom (position + offset) text =
      Outcome.mapBoth (List.map (Token.shift offset)) (LexError.shift offset)
        (lexicon.tokensFrom position text) := by
  fun_induction tokensFrom lexicon position text with
  | case1 position =>
      rw [tokensFrom]
      rfl
  | case2 position c rest hblank ih =>
      rw [tokensFrom_cons_of_isBlank lexicon hblank, ← ih, Nat.add_right_comm]
  | case3 position c rest hblank htoken =>
      rw [tokensFrom, if_neg hblank, htoken]
      rfl
  | case4 position c rest hblank kind length htoken lexeme stop error herror
      ih =>
      have hstop : position + offset + utf8Length lexeme = stop + offset :=
        Nat.add_right_comm ..
      rw [tokensFrom_cons_of_token? lexicon (by simpa using hblank) htoken,
        hstop, ih, herror]
      rfl
  | case5 position c rest hblank kind length htoken lexeme stop tokens htokens
      ih =>
      have hstop : position + offset + utf8Length lexeme = stop + offset :=
        Nat.add_right_comm ..
      rw [tokensFrom_cons_of_token? lexicon (by simpa using hblank) htoken,
        hstop, ih, htokens]
      rfl

/-! ## A text after a gap -/

namespace Lexicon

variable {names : List String}

/-- What follows a text and a gap is read as it is read alone, only further
on. -/
theorem tokenize_append (hnames : ∀ name ∈ names, IsFieldName name)
    {front gap back : String} {tokens : List Token}
    (hfront : (ofNames names).tokenize front = .ok tokens)
    (hgap : AllBlank gap.toList) (hend : EndsName (gap.toList ++ back.toList)) :
    (ofNames names).tokenize (front ++ gap ++ back) =
      Outcome.mapBoth
        (fun more => tokens ++
          more.map (Token.shift (front.utf8ByteSize + gap.utf8ByteSize)))
        (LexError.shift (front.utf8ByteSize + gap.utf8ByteSize))
        ((ofNames names).tokenize back) := by
  rcases exists_readable_of_tokensFrom hfront with
    ⟨pieces, trailing, hreadable, hspell, htokens⟩
  have hall := tokensFrom_spell_append hnames hreadable hend 0
  rw [hspell, htokens, tokensFrom_append_of_allBlank _ hgap, utf8Length_toList,
    utf8Length_toList, Nat.add_assoc, tokensFrom_add] at hall
  rw [tokenize, String.toList_append, String.toList_append, List.append_assoc,
    hall, tokenize]
  cases (ofNames names).tokensFrom 0 back.toList with
  | error error => rfl
  | ok more => rfl

end Lexicon

/-- A text that is read is read in the same way before a blank and another text.
The tokens of the other text follow, or its error, as many bytes further on as
the first text and the blanks have. -/
theorem Schema.tokenize_append_blanks {α : Type} (schema : Schema α)
    {front : String} {tokens : List Token}
    (hfront : (Lexicon.ofNames schema.names).tokenize front = .ok tokens)
    {blanks : String} (hblanks : AllBlank blanks.toList) (hgap : blanks ≠ "")
    (back : String) :
    let offset := front.utf8ByteSize + blanks.utf8ByteSize
    (∀ more, (Lexicon.ofNames schema.names).tokenize back = .ok more →
      (Lexicon.ofNames schema.names).tokenize (front ++ blanks ++ back) =
        .ok (tokens ++ more.map (Token.shift offset))) ∧
    ∀ error, (Lexicon.ofNames schema.names).tokenize back = .error error →
      (Lexicon.ofNames schema.names).tokenize (front ++ blanks ++ back) =
        .error { error with position := error.position + offset } := by
  intro offset
  have hend : EndsName (blanks.toList ++ back.toList) := by
    apply endsName_append_of_allBlank hblanks
    intro hempty
    exact hgap (String.toList_eq_nil_iff.mp hempty)
  have hall := Lexicon.tokenize_append Schema.isFieldName_of_mem_names hfront
    hblanks hend
  refine ⟨?_, ?_⟩
  · intro more hmore
    rw [hall, hmore]
    rfl
  · intro error herror
    rw [hall, herror]
    rfl

namespace Contact

/-- An ideographic space takes up three bytes. -/
theorem tokenize_append_blanks_ageQuery :
    let tokens := [⟨.property, "age", ⟨0, 3⟩⟩, ⟨.operator, ">>", ⟨4, 6⟩⟩,
      ⟨.value, "'7'", ⟨7, 10⟩⟩]
    (Lexicon.ofNames schema.names).tokenize "age >> '7'" = .ok tokens ∧
      (Lexicon.ofNames schema.names).tokenize "age >> '7'\u3000&& Age" =
        .ok (tokens ++ [⟨.connective, "&&", ⟨13, 15⟩⟩,
          ⟨.property, "Age", ⟨16, 19⟩⟩]) ∧
      (Lexicon.ofNames schema.names).tokenize "age >> '7'\u3000&& 'x" =
        .error ⟨16, "'x"⟩ := by
  intro tokens
  have halone :
      ["age >> '7'", "&& Age", "&& 'x"].map
          (Lexicon.ofNames schema.names).tokenize =
        [.ok tokens,
          .ok [⟨.connective, "&&", ⟨0, 2⟩⟩, ⟨.property, "Age", ⟨3, 6⟩⟩],
          .error ⟨3, "'x"⟩] := by
    rw [Lexicon.ofNames_eq_insertionSort]
    decide +kernel
  simp only [List.map_cons, List.map_nil, List.cons.injEq, and_true] at halone
  rcases halone with ⟨hfront, hmore, herror⟩
  have hblank : AllBlank "\u3000".toList := by
    intro c hc
    rw [List.mem_singleton.mp hc]
    decide
  have hgap : "\u3000" ≠ "" := by
    decide
  exact
    ⟨hfront,
      (schema.tokenize_append_blanks hfront hblank hgap "&& Age").1 _ hmore,
      (schema.tokenize_append_blanks hfront hblank hgap "&& 'x").2 _ herror⟩

end Contact

end RecordFilter

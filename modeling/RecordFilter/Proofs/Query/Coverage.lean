import RecordFilter.Proofs.Query.Reading
import RecordFilter.Proofs.Text.BytePosition

/-!
# Tokens cover a query

Whatever names a lexicon is made of, its tokens stand one after another in the
query, each is a part of the query of at least one character, and only blanks
stand between them. This is so because tokens are measured off the query and
never off the names, of which a spelling may have another number of bytes.
-/

namespace RecordFilter

/-! ## Empty names -/

namespace Lexicon

/-- A lexicon does without empty names. -/
theorem ofNames_filter (names : List String) :
    ofNames (names.filter (!·.isEmpty)) = ofNames names := by
  have hkept : ∀ name : String, name.toList.isEmpty = name.isEmpty := by
    intro name
    rw [Bool.eq_iff_iff, List.isEmpty_iff, String.toList_eq_nil_iff,
      String.isEmpty_iff]
  have hnames :
      ((names.filter (!·.isEmpty)).map String.toList).filter (!·.isEmpty) =
        (names.map String.toList).filter (!·.isEmpty) := by
    rw [List.filter_map, List.filter_map]
    simp [Function.comp_def, hkept, List.filter_filter]
  rw [ofNames, hnames, ofNames]

end Lexicon

theorem IsLexeme.ne_nil {names : List String}
    (hnames : ∀ name ∈ names, name.toList ≠ []) {kind : TokenKind}
    {lexeme rest : List Char} (hlexeme : IsLexeme names kind lexeme rest) :
    lexeme ≠ [] := by
  cases hlexeme with
  | openBracket | closeBracket => simp
  | operator op =>
      rw [← List.length_pos_iff, IsLexeme.length_operator]
      decide
  | connective connective =>
      rw [← List.length_pos_iff, IsLexeme.length_connective]
      decide
  | value hinner => simp
  | property hname hsame hend =>
      rintro rfl
      exact hnames _ hname (List.length_eq_zero_iff.mp hsame.length_eq.symm)

/-- A character of two texts is one of the first or one of the second. -/
theorem append_eq_append_cons_cases {front rest before after : List Char}
    {c : Char} (hsplit : front ++ rest = before ++ c :: after) :
    (∃ part, front = before ++ c :: part) ∨
      ∃ further, before = front ++ further ∧ rest = further ++ c :: after := by
  rcases List.append_eq_append_iff.mp hsplit with
    ⟨further, hbefore, hrest⟩ | ⟨part, hfront, hpart⟩
  · exact .inr ⟨further, hbefore, hrest⟩
  · cases part with
    | nil =>
        refine .inr ⟨[], ?_, hpart.symm⟩
        rw [hfront, List.append_nil, List.append_nil]
    | cons d part =>
        rw [(List.cons.inj hpart).1]
        exact .inl ⟨part, hfront⟩

/-! ## The tokens of a reading -/

namespace Piece

theorem stop_of_mem_tokens {position : Nat} {pieces : List Piece} :
    ∀ token ∈ tokens position pieces,
      token.span.stop = token.span.start + utf8Length token.text.toList := by
  induction pieces generalizing position with
  | nil => simp [tokens]
  | cons piece pieces ih =>
      intro token htoken
      rcases List.mem_cons.mp htoken with rfl | htoken
      · simp
      · exact ih token htoken

theorem le_start_of_mem_tokens {position : Nat} {pieces : List Piece} :
    ∀ token ∈ tokens position pieces, position ≤ token.span.start := by
  induction pieces generalizing position with
  | nil => simp [tokens]
  | cons piece pieces ih =>
      intro token htoken
      rcases List.mem_cons.mp htoken with rfl | htoken
      · exact Nat.le_add_right _ _
      · have hstart := ih token htoken
        omega

theorem pairwise_tokens (position : Nat) (pieces : List Piece) :
    (tokens position pieces).Pairwise fun left right =>
      left.span.stop ≤ right.span.start := by
  induction pieces generalizing position with
  | nil => exact List.Pairwise.nil
  | cons piece pieces ih =>
      rw [tokens, List.pairwise_cons]
      exact ⟨le_start_of_mem_tokens, ih _⟩

/-- A character that is in no token is a blank. -/
theorem isBlank_of_outside {names : List String} {pieces : List Piece}
    {trailing : List Char} (hreadable : Readable names pieces trailing)
    (position : Nat) {before after : List Char} {c : Char}
    (hsplit : spell pieces trailing = before ++ c :: after)
    (houtside : ∀ token ∈ tokens position pieces,
      token.span.start ≤ position + utf8Length before →
        token.span.stop ≤ position + utf8Length before) :
    isBlank c = true := by
  induction pieces generalizing position before with
  | nil =>
      have htrailing : trailing = before ++ c :: after := hsplit
      apply hreadable
      rw [htrailing]
      simp
  | cons piece pieces ih =>
      rcases hreadable with ⟨hblanks, -, hrest⟩
      rcases List.forall_mem_cons.mp houtside with ⟨hlexeme, hlater⟩
      rcases append_eq_append_cons_cases hsplit with
        ⟨part, hpart⟩ | ⟨inside, rfl, hafter⟩
      · apply hblanks
        rw [hpart]
        simp
      rcases append_eq_append_cons_cases hafter with
        ⟨part, hpart⟩ | ⟨further, rfl, hbehind⟩
      · -- The character would be in the first token.
        have hc := c.utf8Size_pos
        simp only [hpart, utf8Length_append, utf8Length_cons] at hlexeme
        omega
      · apply ih hrest _ hbehind
        intro token htoken
        have hstop := hlater token htoken
        simp only [utf8Length_append] at hstop
        omega

end Piece

/-! ## Any names -/

/-- The tokens stand in the query in their order, and the rest of it is blank.
-/
structure Covers (query : String) (tokens : List Token) : Prop where
  nonempty : ∀ token ∈ tokens, token.span.start < token.span.stop
  ascending : tokens.Pairwise fun left right =>
    left.span.start < right.span.start ∧ left.span.stop ≤ right.span.start
  boundaries : ∀ token ∈ tokens,
    String.Pos.Raw.IsValid query ⟨token.span.start⟩ ∧
      String.Pos.Raw.IsValid query ⟨token.span.stop⟩
  text_eq : ∀ token ∈ tokens,
    String.Pos.Raw.extract query ⟨token.span.start⟩ ⟨token.span.stop⟩ =
      token.text
  blank_outside : ∀ position : String.Pos.Raw, position.IsValid query →
    position < query.rawEndPos →
    (∀ token ∈ tokens,
      position.byteIdx < token.span.start ∨
        token.span.stop ≤ position.byteIdx) →
    isBlank (position.get query) = true

theorem Piece.covers_tokens {names : List String}
    (hnames : ∀ name ∈ names, name.toList ≠ []) {query : String}
    {pieces : List Piece} {trailing : List Char}
    (hreadable : Readable names pieces trailing)
    (hspell : spell pieces trailing = query.toList) :
    Covers query (tokens 0 pieces) := by
  have hplace := exists_place_of_mem_tokens hreadable 0
  have hnonempty : ∀ token ∈ tokens 0 pieces,
      token.span.start < token.span.stop := by
    intro token htoken
    rcases hplace token htoken with ⟨before, rest, -, -, hlexeme⟩
    have hpositive := utf8Length_pos (hlexeme.ne_nil hnames)
    rw [stop_of_mem_tokens token htoken]
    omega
  refine ⟨hnonempty, ?_, ?_, ?_, ?_⟩
  · apply (pairwise_tokens 0 pieces).imp_of_mem
    intro left right hleft hright hstop
    exact ⟨Nat.lt_of_lt_of_le (hnonempty left hleft) hstop, hstop⟩
  · intro token htoken
    rcases hplace token htoken with ⟨before, rest, hsplit, hstart, -⟩
    rw [hspell] at hsplit
    rw [stop_of_mem_tokens token htoken, ← hstart, Nat.zero_add]
    refine ⟨isValid_of_split hsplit, ?_⟩
    rw [← utf8Length_append]
    rw [← List.append_assoc] at hsplit
    exact isValid_of_split hsplit
  · intro token htoken
    rcases hplace token htoken with ⟨before, rest, hsplit, hstart, -⟩
    rw [hspell] at hsplit
    rw [stop_of_mem_tokens token htoken, ← hstart, Nat.zero_add,
      extract_of_split hsplit, String.ofList_toList]
  · intro position hvalid hinside houtside
    rcases exists_split_of_isValid hvalid hinside with
      ⟨before, after, hsplit, rfl⟩
    rw [← hspell] at hsplit
    apply isBlank_of_outside hreadable 0 hsplit
    intro token htoken
    have hbyte : utf8Length before < token.span.start ∨
        token.span.stop ≤ utf8Length before := houtside token htoken
    omega

/-- Whatever the names are, the tokens of a query cover it, and the text of a
value is a literal without a tick between two ticks. -/
theorem Lexicon.covers_of_tokenize (names : List String) {query : String}
    {tokens : List Token}
    (htokens : (ofNames names).tokenize query = .ok tokens) :
    Covers query tokens ∧
      ∀ token ∈ tokens, token.kind = .value →
        token.text.toList = tick :: (token.literal.toList ++ [tick]) ∧
          tick ∉ token.literal.toList := by
  have hnames : ∀ name ∈ names.filter (!·.isEmpty), name.toList ≠ [] := by
    intro name hname hempty
    have hkept := (List.mem_filter.mp hname).2
    rw [String.toList_eq_nil_iff.mp hempty] at hkept
    contradiction
  rw [← ofNames_filter] at htokens
  rcases exists_readable_of_tokensFrom htokens with
    ⟨pieces, trailing, hreadable, hspell, rfl⟩
  refine ⟨Piece.covers_tokens hnames hreadable hspell, ?_⟩
  intro token htoken hvalue
  rcases Piece.exists_place_of_mem_tokens hreadable 0 token htoken with
    ⟨before, rest, -, -, hlexeme⟩
  rw [hvalue] at hlexeme
  exact Token.quoted_of_isLexeme hlexeme

/-- A lexicon of an empty name, a tick, two words and a small k, which is found
as the three bytes of a Kelvin sign. -/
theorem Lexicon.covers_of_tokenize_oddNames :
    let query := "\u212A == 'x' B C"
    let tokens := [⟨.property, "\u212A", ⟨0, 3⟩⟩, ⟨.operator, "==", ⟨4, 6⟩⟩,
      ⟨.value, "'x'", ⟨7, 10⟩⟩, ⟨.property, "B C", ⟨11, 14⟩⟩]
    (ofNames ["", "'", "b c", "k"]).tokenize query = .ok tokens ∧
      Covers query tokens ∧
      ∀ token ∈ tokens, token.kind = .value →
        token.text.toList = tick :: (token.literal.toList ++ [tick]) ∧
          tick ∉ token.literal.toList := by
  intro query tokens
  have htokens :
      (ofNames ["", "'", "b c", "k"]).tokenize query = .ok tokens := by
    rw [ofNames_eq_insertionSort]
    decide +kernel
  exact ⟨htokens, covers_of_tokenize _ htokens⟩

end RecordFilter

import RecordFilter.Proofs.Outcome
import RecordFilter.Proofs.Query.Lexing

/-!
# Readings of a query

A reading divides a query into lexemes with blanks before and after them. A
query is tokenized exactly if it has a reading; the reading is then the only
one, and the tokens are its lexemes with the bytes that they cover.
-/

namespace RecordFilter

/-- A lexeme with the blanks before it. -/
structure Piece where
  blanks : List Char
  kind : TokenKind
  lexeme : List Char

def AllBlank (text : List Char) : Prop := ∀ c ∈ text, isBlank c = true

theorem allBlank_nil : AllBlank [] := by
  simp [AllBlank]

theorem allBlank_space : AllBlank [' '] := by
  intro c hc
  obtain rfl := List.mem_singleton.mp hc
  decide

theorem endsName_of_allBlank {text : List Char} (hblank : AllBlank text) :
    EndsName text := by
  intro c hc
  exact isNameChar_of_isBlank (hblank c (List.mem_of_mem_head? hc))

theorem endsName_append_of_allBlank {blanks : List Char}
    (hblank : AllBlank blanks) (hgap : blanks ≠ []) (rest : List Char) :
    EndsName (blanks ++ rest) := by
  cases blanks with
  | nil => contradiction
  | cons c blanks =>
      exact endsName_of_isBlank (hblank c List.mem_cons_self) _

namespace Piece

/-- The text of some pieces with blanks at the end. -/
def spell : List Piece → List Char → List Char
  | [], trailing => trailing
  | piece :: pieces, trailing =>
      piece.blanks ++ (piece.lexeme ++ spell pieces trailing)

/-- The lexemes of pieces that start at a byte of a query. -/
def tokens : Nat → List Piece → List Token
  | _, [] => []
  | position, piece :: pieces =>
      let start := position + utf8Length piece.blanks
      let stop := start + utf8Length piece.lexeme
      ⟨piece.kind, String.ofList piece.lexeme, ⟨start, stop⟩⟩ ::
        tokens stop pieces

/-- Every lexeme of the pieces may stand where it does, and the rest is blank.
-/
def Readable (names : List String) : List Piece → List Char → Prop
  | [], trailing => AllBlank trailing
  | piece :: pieces, trailing =>
      AllBlank piece.blanks ∧
        IsLexeme names piece.kind piece.lexeme (spell pieces trailing) ∧
        Readable names pieces trailing

end Piece

/-- A division of a text into lexemes and blanks. -/
structure Reading (names : List String) where
  pieces : List Piece
  trailing : List Char
  readable : Piece.Readable names pieces trailing

namespace Reading

variable {names : List String}

def text (reading : Reading names) : List Char :=
  Piece.spell reading.pieces reading.trailing

def tokens (reading : Reading names) (position : Nat) : List Token :=
  Piece.tokens position reading.pieces

end Reading

/-! ## Uniqueness -/

namespace Piece

variable {names : List String}

/-- Before a lexeme the blanks end. -/
theorem isBlank_head?_of_isLexeme (hnames : ∀ name ∈ names, IsFieldName name)
    {kind : TokenKind} {lexeme rest : List Char}
    (hlexeme : IsLexeme names kind lexeme rest) :
    ∀ c ∈ (lexeme ++ rest).head?, isBlank c = false := by
  obtain ⟨c, hhead, -, hblank⟩ := hlexeme.head?_append hnames
  intro d hd
  rw [hhead] at hd
  rw [← Option.some.inj hd]
  exact hblank

theorem spell_ne_of_allBlank (hnames : ∀ name ∈ names, IsFieldName name)
    {piece : Piece} {pieces : List Piece} {trailing blanks : List Char}
    (hreadable : Readable names (piece :: pieces) trailing)
    (hblanks : AllBlank blanks) :
    spell (piece :: pieces) trailing ≠ blanks := by
  intro heq
  obtain ⟨hbefore, hlexeme, -⟩ := hreadable
  rw [spell, ← List.append_nil blanks] at heq
  obtain ⟨-, hempty⟩ := append_inj_of_boundary hbefore hblanks
    (isBlank_head?_of_isLexeme hnames hlexeme) (by simp) heq
  obtain ⟨c, hhead, -⟩ := hlexeme.head?_append hnames
  rw [hempty] at hhead
  contradiction

theorem eq_of_spell_eq (hnames : ∀ name ∈ names, IsFieldName name)
    {left right : List Piece} {trailingLeft trailingRight : List Char}
    (hleft : Readable names left trailingLeft)
    (hright : Readable names right trailingRight)
    (heq : spell left trailingLeft = spell right trailingRight) :
    left = right ∧ trailingLeft = trailingRight := by
  induction left generalizing right with
  | nil =>
      cases right with
      | nil => exact ⟨rfl, heq⟩
      | cons piece right =>
          exact absurd heq.symm (spell_ne_of_allBlank hnames hright hleft)
  | cons piece left ih =>
      cases right with
      | nil => exact absurd heq (spell_ne_of_allBlank hnames hleft hright)
      | cons other right =>
          obtain ⟨hblanks, hlexeme, hrest⟩ := hleft
          obtain ⟨hotherBlanks, hother, hotherRest⟩ := hright
          rw [spell, spell] at heq
          obtain ⟨hbefore, hafter⟩ :=
            append_inj_of_boundary hblanks hotherBlanks
              (isBlank_head?_of_isLexeme hnames hlexeme)
              (isBlank_head?_of_isLexeme hnames hother) heq
          obtain ⟨hkind, htext, hspell⟩ := hlexeme.unique hnames hother hafter
          obtain ⟨rfl, htrailing⟩ := ih hrest hotherRest hspell
          have hpiece : piece = other := by
            cases piece
            cases other
            simp_all
          rw [hpiece]
          exact ⟨rfl, htrailing⟩

end Piece

/-! ## The tokens of a reading -/

namespace Lexicon

variable {names : List String}

theorem tokensFrom_cons_of_isBlank (lexicon : Lexicon) {c : Char}
    (hblank : isBlank c = true) (position : Nat) (rest : List Char) :
    lexicon.tokensFrom position (c :: rest) =
      lexicon.tokensFrom (position + c.utf8Size) rest := by
  rw [tokensFrom, if_pos hblank]

theorem tokensFrom_append_of_allBlank (lexicon : Lexicon) {blanks : List Char}
    (hblanks : AllBlank blanks) (position : Nat) (rest : List Char) :
    lexicon.tokensFrom position (blanks ++ rest) =
      lexicon.tokensFrom (position + utf8Length blanks) rest := by
  induction blanks generalizing position with
  | nil => rfl
  | cons c blanks ih =>
      have hc := hblanks c List.mem_cons_self
      have hrest : AllBlank blanks :=
        fun d hd => hblanks d (List.mem_cons_of_mem c hd)
      rw [List.cons_append, tokensFrom_cons_of_isBlank lexicon hc, ih hrest,
        utf8Length_cons, Nat.add_assoc]

theorem tokensFrom_cons_of_token? (lexicon : Lexicon) {c : Char}
    {rest : List Char} (hblank : isBlank c = false) {kind : TokenKind}
    {length : Nat} (htoken : lexicon.token? (c :: rest) = some (kind, length))
    (position : Nat) :
    let lexeme := c :: rest.take (length - 1)
    let stop := position + utf8Length lexeme
    lexicon.tokensFrom position (c :: rest) =
      (lexicon.tokensFrom stop (rest.drop (length - 1))).map
        (⟨kind, String.ofList lexeme, ⟨position, stop⟩⟩ :: ·) := by
  intro lexeme stop
  rw [tokensFrom, hblank, htoken]
  simp only [Bool.false_eq_true, if_false]
  cases lexicon.tokensFrom stop (rest.drop (length - 1)) with
  | error error => rfl
  | ok tokens => rfl

theorem tokensFrom_append_of_isLexeme
    (hnames : ∀ name ∈ names, IsFieldName name) {kind : TokenKind}
    {lexeme rest : List Char} (hlexeme : IsLexeme names kind lexeme rest)
    (position : Nat) :
    (ofNames names).tokensFrom position (lexeme ++ rest) =
      ((ofNames names).tokensFrom (position + utf8Length lexeme) rest).map
        (⟨kind, String.ofList lexeme,
          ⟨position, position + utf8Length lexeme⟩⟩ :: ·) := by
  have htoken := token?_append hnames hlexeme
  obtain ⟨c, hhead, -, hblank⟩ := hlexeme.exists_leading hnames
  obtain ⟨tail, rfl⟩ := List.head?_eq_some_iff.mp hhead
  have hstep := tokensFrom_cons_of_token? (ofNames names) hblank htoken position
  have htake : (tail ++ rest).take ((c :: tail).length - 1) = tail := by
    simp
  have hdrop : (tail ++ rest).drop ((c :: tail).length - 1) = rest := by
    simp
  simp only [List.append_eq, htake, hdrop] at hstep
  exact hstep

/-- The lexemes of a reading are read as before if a text follows that does not
continue a name. -/
theorem tokensFrom_spell_append (hnames : ∀ name ∈ names, IsFieldName name)
    {pieces : List Piece} {trailing : List Char}
    (hreadable : Piece.Readable names pieces trailing) {more : List Char}
    (hmore : EndsName more) (position : Nat) :
    (ofNames names).tokensFrom position (Piece.spell pieces trailing ++ more) =
      ((ofNames names).tokensFrom
        (position + utf8Length (Piece.spell pieces trailing)) more).map
          (Piece.tokens position pieces ++ ·) := by
  induction pieces generalizing position with
  | nil =>
      rw [Piece.spell, tokensFrom_append_of_allBlank _ hreadable]
      cases (ofNames names).tokensFrom _ more with
      | error error => rfl
      | ok tokens => rfl
  | cons piece pieces ih =>
      obtain ⟨hblanks, hlexeme, hrest⟩ := hreadable
      have hbytes :
          position + utf8Length (Piece.spell (piece :: pieces) trailing) =
            position + utf8Length piece.blanks + utf8Length piece.lexeme +
              utf8Length (Piece.spell pieces trailing) := by
        simp only [Piece.spell, utf8Length_append, Nat.add_assoc]
      rw [hbytes, Piece.spell, List.append_assoc, List.append_assoc,
        tokensFrom_append_of_allBlank _ hblanks,
        tokensFrom_append_of_isLexeme hnames (hlexeme.append_rest hmore),
        ih hrest]
      cases (ofNames names).tokensFrom _ more with
      | error error => rfl
      | ok tokens => rfl

theorem tokensFrom_spell (hnames : ∀ name ∈ names, IsFieldName name)
    {pieces : List Piece} {trailing : List Char}
    (hreadable : Piece.Readable names pieces trailing) (position : Nat) :
    (ofNames names).tokensFrom position (Piece.spell pieces trailing) =
      .ok (Piece.tokens position pieces) := by
  have hread :=
    tokensFrom_spell_append hnames hreadable (endsName_of_allBlank allBlank_nil)
      position
  rw [List.append_nil, tokensFrom] at hread
  rw [hread, Except.map, List.append_nil]

/-! ## The reading behind some tokens -/

/-- A blank before a text does not change how the text is read. -/
theorem exists_readable_cons {names : List String} {c : Char}
    (hblank : isBlank c = true) {pieces : List Piece} {trailing : List Char}
    (hreadable : Piece.Readable names pieces trailing) (position : Nat) :
    ∃ further rest, Piece.Readable names further rest ∧
      Piece.spell further rest = c :: Piece.spell pieces trailing ∧
      Piece.tokens position further =
        Piece.tokens (position + c.utf8Size) pieces := by
  cases pieces with
  | nil =>
      refine ⟨[], c :: trailing, ?_, rfl, rfl⟩
      intro d hd
      rcases List.mem_cons.mp hd with rfl | hd
      · exact hblank
      · exact hreadable d hd
  | cons piece pieces =>
      obtain ⟨hblanks, hlexeme, hrest⟩ := hreadable
      refine ⟨{ piece with blanks := c :: piece.blanks } :: pieces, trailing,
        ⟨?_, hlexeme, hrest⟩, rfl, ?_⟩
      · intro d hd
        rcases List.mem_cons.mp hd with rfl | hd
        · exact hblank
        · exact hblanks d hd
      · simp only [Piece.tokens, utf8Length_cons, Nat.add_assoc]

theorem exists_readable_of_tokensFrom {position : Nat} {text : List Char}
    {tokens : List Token}
    (htokens : (ofNames names).tokensFrom position text = .ok tokens) :
    ∃ pieces trailing, Piece.Readable names pieces trailing ∧
      Piece.spell pieces trailing = text ∧
        Piece.tokens position pieces = tokens := by
  fun_induction tokensFrom (ofNames names) position text
    generalizing tokens with
  | case1 position =>
      obtain rfl := Except.ok.inj htokens
      exact ⟨[], [], by simp [Piece.Readable, AllBlank], rfl, rfl⟩
  | case2 position c rest hblank ih =>
      obtain ⟨pieces, trailing, hreadable, rfl, rfl⟩ := ih htokens
      exact exists_readable_cons hblank hreadable position
  | case3 => contradiction
  | case4 => contradiction
  | case5 position c rest hblank kind length htoken lexeme stop further
      hfurther =>
      rename_i ih
      obtain ⟨pieces, trailing, hreadable, hspell, htokensOf⟩ := ih hfurther
      have hlexeme : IsLexeme names kind lexeme (rest.drop (length - 1)) :=
        isLexeme_of_token? htoken
      refine
        ⟨⟨[], kind, lexeme⟩ :: pieces, trailing, ⟨?_, ?_, hreadable⟩, ?_, ?_⟩
      · simp [AllBlank]
      · rw [hspell]
        exact hlexeme
      · rw [Piece.spell, hspell]
        simp [lexeme, List.take_append_drop]
      · rw [← Except.ok.inj htokens, Piece.tokens, ← htokensOf]
        rfl

theorem tokensFrom_eq_ok_iff (hnames : ∀ name ∈ names, IsFieldName name)
    {position : Nat} {text : List Char} {tokens : List Token} :
    (ofNames names).tokensFrom position text = .ok tokens ↔
      ∃ reading : Reading names,
        reading.text = text ∧ reading.tokens position = tokens := by
  constructor
  · intro htokens
    obtain ⟨pieces, trailing, hreadable, hspell, htokensOf⟩ :=
      exists_readable_of_tokensFrom htokens
    exact ⟨⟨pieces, trailing, hreadable⟩, hspell, htokensOf⟩
  · rintro ⟨⟨pieces, trailing, hreadable⟩, rfl, rfl⟩
    exact tokensFrom_spell hnames hreadable position

end Lexicon

/-- Every token of a reading stands at its place in the text. -/
theorem Piece.exists_place_of_mem_tokens {names : List String}
    {pieces : List Piece} {trailing : List Char}
    (hreadable : Readable names pieces trailing) (position : Nat) :
    ∀ token ∈ tokens position pieces, ∃ before rest,
      spell pieces trailing = before ++ (token.text.toList ++ rest) ∧
      position + utf8Length before = token.span.start ∧
      IsLexeme names token.kind token.text.toList rest := by
  induction pieces generalizing position with
  | nil => simp [tokens]
  | cons piece pieces ih =>
      obtain ⟨-, hlexeme, hrest⟩ := hreadable
      intro token htoken
      rcases List.mem_cons.mp htoken with rfl | htoken
      · exact
          ⟨piece.blanks, spell pieces trailing, by simp [spell], rfl,
            by simpa using hlexeme⟩
      · obtain ⟨before, rest, hsplit, hstart, htokenLexeme⟩ :=
          ih hrest _ token htoken
        refine ⟨piece.blanks ++ piece.lexeme ++ before, rest, ?_, ?_,
          htokenLexeme⟩
        · rw [spell, hsplit]
          simp only [List.append_assoc]
        · rw [← hstart, utf8Length_append, utf8Length_append]
          omega

theorem Schema.isFieldName_of_mem_names {α : Type} {schema : Schema α} :
    ∀ name ∈ schema.names, IsFieldName name := by
  intro name hname
  obtain ⟨field, hfield, rfl⟩ := List.mem_map.mp hname
  exact schema.names_valid field hfield

/-- The queries over a schema that can be tokenized are those with a reading,
which is the only one, and its lexemes are the tokens. -/
theorem Schema.tokenize_eq_ok_iff_reading {α : Type} (schema : Schema α)
    (query : String) :
    (∀ tokens, (Lexicon.ofNames schema.names).tokenize query = .ok tokens ↔
      ∃ reading : Reading schema.names,
        reading.text = query.toList ∧ reading.tokens 0 = tokens) ∧
    Subsingleton
      { reading : Reading schema.names // reading.text = query.toList } := by
  constructor
  · intro tokens
    exact Lexicon.tokensFrom_eq_ok_iff Schema.isFieldName_of_mem_names
  · constructor
    rintro ⟨⟨pieces, trailing, hreadable⟩, htext⟩
      ⟨⟨others, otherTrailing, hothers⟩, hotherText⟩
    obtain ⟨rfl, rfl⟩ :=
      Piece.eq_of_spell_eq Schema.isFieldName_of_mem_names hreadable hothers
        (htext.trans hotherText.symm)
    rfl

end RecordFilter

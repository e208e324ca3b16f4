import RecordFilter.Proofs.Text.LetterCase
import RecordFilter.Query.Connective
import RecordFilter.Query.Lexicon
import RecordFilter.Query.Operator
import RecordFilter.Schema

/-!
# Lexemes

The lexical grammar of queries: what a token may look like and, for names, what
must not follow it. The first character of a lexeme tells its kind, and names
and values end where their characters do, so a text starts with one lexeme at
most.
-/

namespace RecordFilter

/-- The spellings differ at most in the case of letters. -/
def SameLetters (left right : List Char) : Prop :=
  left.map lowercase = right.map lowercase

/-- The text does not start with a name character. -/
def EndsName (rest : List Char) : Prop := ∀ c ∈ rest.head?, isNameChar c = false

/-- A lexeme of some kind may stand before the rest of a query. -/
inductive IsLexeme (names : List String) :
    TokenKind → List Char → List Char → Prop
  | openBracket (rest : List Char) : IsLexeme names .openBracket ['('] rest
  | closeBracket (rest : List Char) : IsLexeme names .closeBracket [')'] rest
  | operator (op : Operator) (rest : List Char) :
    IsLexeme names .operator op.lexeme.toList rest
  | connective (connective : Connective) (rest : List Char) :
    IsLexeme names .connective connective.lexeme.toList rest
  | value {inner : List Char} (hinner : tick ∉ inner) (rest : List Char) :
    IsLexeme names .value (tick :: (inner ++ [tick])) rest
  | property {name : String} {spelling rest : List Char} (hname : name ∈ names)
    (hsame : SameLetters spelling name.toList) (hend : EndsName rest) :
    IsLexeme names .property spelling rest

/-! ## Spellings of names -/

namespace SameLetters

theorem length_eq {left right : List Char} (hsame : SameLetters left right) :
    left.length = right.length := by
  have hlengths := congrArg List.length hsame
  simpa using hlengths

theorem cons_iff {c d : Char} {left right : List Char} :
    SameLetters (c :: left) (d :: right) ↔
      lowercase c = lowercase d ∧ SameLetters left right := by
  unfold SameLetters
  rw [List.map_cons, List.map_cons, List.cons.injEq]

theorem isNameChar {spelling name : List Char}
    (hsame : SameLetters spelling name)
    (hname : ∀ c ∈ name, isNameChar c = true) :
    ∀ c ∈ spelling, isNameChar c = true := by
  induction spelling generalizing name with
  | nil => simp
  | cons c spelling ih =>
      cases name with
      | nil => simp [SameLetters] at hsame
      | cons n name =>
          obtain ⟨hletter, hrest⟩ := cons_iff.mp hsame
          intro d hd
          rcases List.mem_cons.mp hd with rfl | hd
          · rw [isNameChar_of_lowercase_eq hletter]
            exact hname n List.mem_cons_self
          · exact
              ih hrest (fun e he => hname e (List.mem_cons_of_mem n he)) d hd

end SameLetters

/-! ## Texts that end with a class of characters -/

/-- Two texts that end exactly where the characters of some class end are equal
if both start the same text. -/
theorem append_inj_of_boundary {p : Char → Bool}
    {left right restLeft restRight : List Char}
    (hleft : ∀ c ∈ left, p c = true)
    (hright : ∀ c ∈ right, p c = true)
    (hendLeft : ∀ c ∈ restLeft.head?, p c = false)
    (hendRight : ∀ c ∈ restRight.head?, p c = false)
    (heq : left ++ restLeft = right ++ restRight) :
    left = right ∧ restLeft = restRight := by
  have hstop : ∀ rest : List Char, (∀ c ∈ rest.head?, p c = false) →
      rest.takeWhile p = [] := by
    intro rest hend
    cases rest with
    | nil => rfl
    | cons c tail => simp [hend c rfl]
  have htake := congrArg (List.takeWhile p) heq
  rw [List.takeWhile_append_of_pos hleft, List.takeWhile_append_of_pos hright,
    hstop _ hendLeft, hstop _ hendRight, List.append_nil, List.append_nil]
    at htake
  subst htake
  exact ⟨rfl, List.append_cancel_left heq⟩

/-! ## Kinds by their first characters -/

def TokenKind.ofLeading (c : Char) : TokenKind :=
  if c = '(' then .openBracket
  else if c = ')' then .closeBracket
  else if c = tick then .value
  else if c ∈ ['>', '<', '=', '!', '@', '%'] then .operator
  else if c ∈ ['&', '|'] then .connective
  else .property

/-- The characters that lexemes other than names start with. -/
def markChars : List Char :=
  ['(', ')', tick, '>', '<', '=', '!', '@', '%', '&', '|']

theorem isNameChar_of_mem_markChars {c : Char} (hmark : c ∈ markChars) :
    isNameChar c = false := by
  have htable : (markChars.all fun d => !isNameChar d) = true := by decide
  have hother := List.all_eq_true.mp htable c hmark
  simpa using hother

theorem TokenKind.ofLeading_of_isNameChar {c : Char}
    (hname : isNameChar c = true) : ofLeading c = .property := by
  have hother : c ∉ markChars := by
    intro hmark
    rw [isNameChar_of_mem_markChars hmark] at hname
    contradiction
  simp only [markChars, List.mem_cons, List.not_mem_nil, or_false, not_or]
    at hother
  simp [ofLeading, hother]

namespace IsLexeme

variable {names : List String} {kind : TokenKind} {lexeme rest : List Char}

theorem exists_leading_of_head?
    (hhead :
      lexeme.head?.map (fun c => (TokenKind.ofLeading c, isBlank c)) =
        some (kind, false)) :
    ∃ c, lexeme.head? = some c ∧ TokenKind.ofLeading c = kind ∧
      isBlank c = false := by
  obtain ⟨c, hc, hclass⟩ := Option.map_eq_some_iff.mp hhead
  obtain ⟨hkind, hblank⟩ := Prod.mk.inj hclass
  exact ⟨c, hc, hkind, hblank⟩

theorem exists_leading (hnames : ∀ name ∈ names, IsFieldName name)
    (hlexeme : IsLexeme names kind lexeme rest) :
    ∃ c, lexeme.head? = some c ∧ TokenKind.ofLeading c = kind ∧
      isBlank c = false := by
  cases hlexeme with
  | openBracket => exact ⟨'(', rfl, by decide, by decide⟩
  | closeBracket => exact ⟨')', rfl, by decide, by decide⟩
  | operator op =>
      apply exists_leading_of_head?
      cases op <;> decide
  | connective connective =>
      apply exists_leading_of_head?
      cases connective <;> decide
  | value hinner => exact ⟨tick, rfl, by decide, by decide⟩
  | property hname hsame hend =>
      obtain ⟨hne, hchars⟩ := hnames _ hname
      cases lexeme with
      | nil =>
          exact absurd (List.length_eq_zero_iff.mp hsame.length_eq.symm) hne
      | cons c tail =>
          have hc : isNameChar c = true :=
            hsame.isNameChar hchars c List.mem_cons_self
          refine ⟨c, rfl, TokenKind.ofLeading_of_isNameChar hc, ?_⟩
          cases hblank : isBlank c with
          | false => rfl
          | true =>
              rw [isNameChar_of_isBlank hblank] at hc
              contradiction

theorem head?_append (hnames : ∀ name ∈ names, IsFieldName name)
    (hlexeme : IsLexeme names kind lexeme rest) :
    ∃ c, (lexeme ++ rest).head? = some c ∧ TokenKind.ofLeading c = kind ∧
      isBlank c = false := by
  obtain ⟨c, hhead, hclass⟩ := hlexeme.exists_leading hnames
  refine ⟨c, ?_, hclass⟩
  rw [List.head?_append, hhead]
  rfl

theorem length_operator (op : Operator) : op.lexeme.toList.length = 2 := by
  cases op <;> rfl

theorem length_connective (connective : Connective) :
    connective.lexeme.toList.length = 2 := by
  cases connective <;> rfl

/-- A text starts with one lexeme at most. -/
theorem unique (hnames : ∀ name ∈ names, IsFieldName name)
    {otherKind : TokenKind} {other otherRest : List Char}
    (hlexeme : IsLexeme names kind lexeme rest)
    (hother : IsLexeme names otherKind other otherRest)
    (heq : lexeme ++ rest = other ++ otherRest) :
    kind = otherKind ∧ lexeme = other ∧ rest = otherRest := by
  obtain ⟨c, hhead, hkind, -⟩ := hlexeme.head?_append hnames
  obtain ⟨d, hotherHead, hotherKind, -⟩ := hother.head?_append hnames
  have hsameKind : kind = otherKind := by
    rw [heq, hotherHead] at hhead
    rw [← hkind, ← hotherKind, Option.some.inj hhead]
  clear hhead hotherHead hkind hotherKind
  subst hsameKind
  refine ⟨rfl, ?_⟩
  cases hlexeme with
  | openBracket | closeBracket =>
      cases hother
      exact ⟨rfl, (List.cons.inj heq).2⟩
  | operator op =>
      cases hother with
      | operator otherOp =>
          exact List.append_inj heq (by rw [length_operator, length_operator])
  | connective connective =>
      cases hother with
      | connective otherConnective =>
          exact
            List.append_inj heq (by rw [length_connective, length_connective])
  | value hinner =>
      cases hother with
      | value hotherInner =>
          simp only [List.cons_append, List.append_assoc, List.nil_append,
            List.cons.injEq, true_and] at heq
          have hinside :
              ∀ inner : List Char, tick ∉ inner →
                ∀ c ∈ inner, (c != tick) = true := by
            intro inner hinner c hc
            rw [bne_iff_ne]
            rintro rfl
            exact hinner hc
          obtain ⟨rfl, hrest⟩ :=
            append_inj_of_boundary (hinside _ hinner) (hinside _ hotherInner)
              (by simp) (by simp) heq
          exact ⟨rfl, (List.cons.inj hrest).2⟩
  | property hname hsame hend =>
      cases hother with
      | property hotherName hotherSame hotherEnd =>
          apply append_inj_of_boundary _ _ hend hotherEnd heq
          · exact hsame.isNameChar (hnames _ hname).2
          · exact hotherSame.isNameChar (hnames _ hotherName).2

end IsLexeme

/-! ## What may follow a lexeme -/

theorem endsName_of_isBlank {c : Char} (hblank : isBlank c = true)
    (rest : List Char) : EndsName (c :: rest) := by
  intro d hd
  rw [← Option.some.inj hd]
  exact isNameChar_of_isBlank hblank

theorem EndsName.append {front back : List Char} (hfront : EndsName front)
    (hback : EndsName back) : EndsName (front ++ back) := by
  cases front with
  | nil => exact hback
  | cons c front => exact hfront

/-- Only names have to end before what comes after them. -/
theorem IsLexeme.of_endsName {names : List String} {kind : TokenKind}
    {lexeme rest other : List Char} (hlexeme : IsLexeme names kind lexeme rest)
    (hend : kind = .property → EndsName other) :
    IsLexeme names kind lexeme other := by
  cases hlexeme with
  | openBracket => exact .openBracket other
  | closeBracket => exact .closeBracket other
  | operator op => exact .operator op other
  | connective connective => exact .connective connective other
  | value hinner => exact .value hinner other
  | property hname hsame => exact .property hname hsame (hend rfl)

theorem IsLexeme.append_rest {names : List String} {kind : TokenKind}
    {lexeme rest more : List Char} (hlexeme : IsLexeme names kind lexeme rest)
    (hmore : EndsName more) : IsLexeme names kind lexeme (rest ++ more) := by
  apply hlexeme.of_endsName
  rintro rfl
  cases hlexeme with
  | property hname hsame hend => exact hend.append hmore

/-! ## Values -/

/-- The text of a value is its literal between two ticks. -/
theorem Token.quoted_of_isLexeme {names : List String} {token : Token}
    {rest : List Char}
    (hlexeme : IsLexeme names .value token.text.toList rest) :
    token.text.toList = tick :: (token.literal.toList ++ [tick]) ∧
      tick ∉ token.literal.toList := by
  generalize htext : token.text.toList = text at hlexeme
  cases hlexeme with
  | @value inner hinner =>
      have hliteral : token.literal.toList = inner := by
        simp only [literal, htext, unquote?_quoted, String.toList_ofList]
      rw [hliteral]
      exact ⟨rfl, hinner⟩

end RecordFilter

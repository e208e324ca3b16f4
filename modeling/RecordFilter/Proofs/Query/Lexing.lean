import Mathlib.Data.List.Sort
import RecordFilter.Proofs.Query.Lexeme

/-!
# Splitting a query into lexemes

A lexicon reads exactly the queries that consist of lexemes and blanks. Every
look-up of the lexicon is described by the lexemes that it finds. Because a text
starts with one lexeme at most, the order in which the look-ups are tried does
not matter, and the split of a query is unique.
-/

namespace RecordFilter

/-! ## The look-ups of a lexicon -/

theorem afterName?_append {spelling name : List Char}
    (hsame : SameLetters spelling name) (rest : List Char) :
    afterName? name (spelling ++ rest) = some rest := by
  induction name generalizing spelling with
  | nil =>
      rw [List.length_eq_zero_iff.mp hsame.length_eq]
      rfl
  | cons n name ih =>
      cases spelling with
      | nil => exact absurd hsame.length_eq (by simp)
      | cons c spelling =>
          obtain ⟨hletter, hletters⟩ := SameLetters.cons_iff.mp hsame
          rw [List.cons_append, afterName?, if_pos hletter]
          exact ih hletters

theorem exists_of_afterName? {name text rest : List Char}
    (hafter : afterName? name text = some rest) :
    ∃ spelling, text = spelling ++ rest ∧ SameLetters spelling name := by
  induction name generalizing text with
  | nil =>
      rw [afterName?, Option.some.injEq] at hafter
      exact ⟨[], hafter, rfl⟩
  | cons n name ih =>
      cases text with
      | nil => contradiction
      | cons c text =>
          rw [afterName?] at hafter
          by_cases hletter : lowercase c = lowercase n
          · rw [if_pos hletter] at hafter
            obtain ⟨spelling, hsplit, hletters⟩ := ih hafter
            rw [hsplit]
            exact
              ⟨c :: spelling, rfl, SameLetters.cons_iff.mpr ⟨hletter, hletters⟩⟩
          · rw [if_neg hletter] at hafter
            contradiction

theorem standsAtHead_append {spelling name rest : List Char}
    (hsame : SameLetters spelling name) (hend : EndsName rest) :
    standsAtHead (spelling ++ rest) name = true := by
  unfold standsAtHead
  rw [afterName?_append hsame]
  cases rest with
  | nil => rfl
  | cons d tail => simp [hend d rfl]

theorem exists_of_standsAtHead {text name : List Char}
    (hstands : standsAtHead text name = true) :
    ∃ spelling rest,
      text = spelling ++ rest ∧ SameLetters spelling name ∧ EndsName rest := by
  unfold standsAtHead at hstands
  cases hafter : afterName? name text with
  | none =>
      rw [hafter] at hstands
      contradiction
  | some rest =>
      obtain ⟨spelling, hsplit, hsame⟩ := exists_of_afterName? hafter
      refine ⟨spelling, rest, hsplit, hsame, ?_⟩
      intro c hc
      cases rest with
      | nil => contradiction
      | cons d tail =>
          rw [← Option.some.inj hc]
          simpa [hafter] using hstands

/-! ## The order of names -/

section Sorting

variable {α : Type} {r : α → α → Prop} [DecidableRel r]

theorem orderedInsert_append {item : α} {before after : List α}
    (hbefore : ∀ other ∈ before, ¬r item other)
    (hafter : ∀ other ∈ after, r item other) :
    (before ++ after).orderedInsert r item = before ++ item :: after := by
  induction before with
  | nil =>
      cases after with
      | nil => rfl
      | cons other after =>
          exact List.orderedInsert_cons_of_le r after
            (hafter other List.mem_cons_self)
  | cons other before ih =>
      obtain ⟨hother, hrest⟩ := List.forall_mem_cons.mp hbefore
      rw [List.cons_append, List.orderedInsert_of_not_le r _ hother, ih hrest,
        List.cons_append]

/-- Both sorts keep the order of items that are placed alike, so they agree
although the relation may hold both ways. -/
theorem mergeSort_eq_insertionSort (htrans : ∀ a b c, r a b → r b c → r a c)
    (htotal : ∀ a b, r a b ∨ r b a) (items : List α) :
    items.mergeSort (fun a b => decide (r a b)) = items.insertionSort r := by
  have hchain : ∀ a b c, decide (r a b) = true → decide (r b c) = true →
      decide (r a c) = true := by
    simpa only [decide_eq_true_eq] using htrans
  have hboth : ∀ a b, (decide (r a b) || decide (r b a)) = true := by
    simpa only [Bool.or_eq_true, decide_eq_true_eq] using htotal
  induction items with
  | nil => exact List.mergeSort_nil
  | cons item items ih =>
      obtain ⟨before, after, hcons, hitems, hbefore⟩ :=
        List.mergeSort_cons hchain hboth item items
      have hsorted := List.pairwise_mergeSort hchain hboth (item :: items)
      rw [hcons] at hsorted
      obtain ⟨-, htail, -⟩ := List.pairwise_append.mp hsorted
      have hafter := (List.pairwise_cons.mp htail).1
      simp only [Bool.not_eq_true', decide_eq_false_iff_not] at hbefore
      simp only [decide_eq_true_eq] at hafter
      rw [hcons, List.insertionSort_cons, ← ih, hitems,
        orderedInsert_append hbefore hafter]

end Sorting

namespace Lexicon

/-- A lexicon can be put together name by name. -/
theorem ofNames_eq_insertionSort (names : List String) :
    ofNames names =
      ⟨((names.map String.toList).filter (!·.isEmpty)).insertionSort
        fun left right => right.length ≤ left.length⟩ := by
  rw [ofNames, mergeSort_eq_insertionSort]
  · intro first second third hsecond hthird
    exact hthird.trans hsecond
  · intro first second
    exact Nat.le_total _ _

theorem mem_ofNames {names : List String} {name : List Char} :
    name ∈ (ofNames names).names ↔
      name ≠ [] ∧ ∃ entry ∈ names, entry.toList = name := by
  unfold ofNames
  rw [List.mem_mergeSort, List.mem_filter, List.mem_map]
  simp [and_comm]

theorem exists_of_nameLength? {names : List String} {text : List Char}
    {length : Nat} (hlength : (ofNames names).nameLength? text = some length) :
    ∃ spelling rest,
      text = spelling ++ rest ∧ spelling.length = length ∧ spelling ≠ [] ∧
        IsLexeme names .property spelling rest := by
  unfold nameLength? at hlength
  obtain ⟨name, hfind, rfl⟩ := Option.map_eq_some_iff.mp hlength
  obtain ⟨hne, entry, hentry, rfl⟩ :=
    mem_ofNames.mp (List.mem_of_find?_eq_some hfind)
  obtain ⟨spelling, rest, hsplit, hsame, hend⟩ :=
    exists_of_standsAtHead (List.find?_some hfind)
  refine ⟨spelling, rest, hsplit, hsame.length_eq, ?_,
    .property hentry hsame hend⟩
  intro hempty
  rw [hempty] at hsame
  exact hne (List.length_eq_zero_iff.mp hsame.length_eq.symm)

theorem nameLength?_isSome {names : List String} {name : String}
    {spelling rest : List Char} (hname : name ∈ names) (hne : name.toList ≠ [])
    (hsame : SameLetters spelling name.toList) (hend : EndsName rest) :
    ((ofNames names).nameLength? (spelling ++ rest)).isSome = true := by
  unfold nameLength?
  rw [Option.isSome_map, List.find?_isSome]
  have hmem : name.toList ∈ (ofNames names).names :=
    mem_ofNames.mpr ⟨hne, name, hname, rfl⟩
  exact ⟨name.toList, hmem, standsAtHead_append hsame hend⟩

theorem exists_of_lexemeLength? {lexemes : List String} {text : List Char}
    {length : Nat} (hlength : lexemeLength? lexemes text = some length) :
    ∃ lexeme ∈ lexemes, ∃ rest,
      text = lexeme.toList ++ rest ∧ lexeme.toList.length = length := by
  unfold lexemeLength? at hlength
  obtain ⟨lexeme, hfind, rfl⟩ := Option.map_eq_some_iff.mp hlength
  have hbegins : lexeme.toList.isPrefixOf text = true := by
    simpa using List.find?_some hfind
  obtain ⟨rest, hsplit⟩ := List.isPrefixOf_iff_prefix.mp hbegins
  exact ⟨lexeme, List.mem_of_find?_eq_some hfind, rest, hsplit.symm, rfl⟩

theorem lexemeLength?_isSome {lexemes : List String} {lexeme : String}
    (hlexeme : lexeme ∈ lexemes) (rest : List Char) :
    (lexemeLength? lexemes (lexeme.toList ++ rest)).isSome = true := by
  unfold lexemeLength?
  rw [Option.isSome_map, List.find?_isSome]
  exact
    ⟨lexeme, hlexeme,
      List.isPrefixOf_iff_prefix.mpr (List.prefix_append _ rest)⟩

theorem findIdx?_tick_append {inner : List Char} (hinner : tick ∉ inner)
    (rest : List Char) :
    (inner ++ tick :: rest).findIdx? (· == tick) = some inner.length := by
  induction inner with
  | nil => simp [List.findIdx?_cons]
  | cons c inner ih =>
      rw [List.mem_cons, not_or] at hinner
      have hc : (c == tick) = false := by
        rw [beq_eq_false_iff_ne]
        exact Ne.symm hinner.1
      rw [List.cons_append, List.findIdx?_cons, hc, ih hinner.2]
      rfl

theorem exists_of_findIdx?_tick {text : List Char} {index : Nat}
    (hindex : text.findIdx? (· == tick) = some index) :
    ∃ inner rest,
      text = inner ++ tick :: rest ∧ tick ∉ inner ∧ inner.length = index := by
  induction text generalizing index with
  | nil => contradiction
  | cons c text ih =>
      rw [List.findIdx?_cons] at hindex
      by_cases hc : c = tick
      · rw [if_pos (beq_iff_eq.mpr hc), Option.some.injEq] at hindex
        rw [hc]
        exact ⟨[], text, rfl, List.not_mem_nil, hindex⟩
      · rw [if_neg (by simpa using hc), Option.map_eq_some_iff] at hindex
        rcases hindex with ⟨position, hposition, hsucc⟩
        obtain ⟨inner, rest, hsplit, hinner, hlength⟩ := ih hposition
        refine ⟨c :: inner, rest, ?_, ?_, ?_⟩
        · rw [hsplit]
          rfl
        · rw [List.mem_cons, not_or]
          exact ⟨Ne.symm hc, hinner⟩
        · rw [List.length_cons, hlength, hsucc]

theorem quotedLength?_append {inner : List Char} (hinner : tick ∉ inner)
    (rest : List Char) :
    quotedLength? (tick :: (inner ++ tick :: rest)) =
      some (inner.length + 2) := by
  simp only [quotedLength?, if_true]
  rw [findIdx?_tick_append hinner]
  rfl

theorem exists_of_quotedLength? {text : List Char} {length : Nat}
    (hlength : quotedLength? text = some length) :
    ∃ inner rest,
      text = tick :: (inner ++ tick :: rest) ∧ tick ∉ inner ∧
        inner.length + 2 = length := by
  cases text with
  | nil => contradiction
  | cons c text =>
      simp only [quotedLength?] at hlength
      by_cases hc : c = tick
      · rw [if_pos hc, Option.map_eq_some_iff] at hlength
        rcases hlength with ⟨index, hindex, hsum⟩
        obtain ⟨inner, rest, hsplit, hinner, hinnerLength⟩ :=
          exists_of_findIdx?_tick hindex
        rw [hc, hsplit]
        exact ⟨inner, rest, rfl, hinner, by rw [hinnerLength, hsum]⟩
      · rw [if_neg hc] at hlength
        contradiction

/-! ## One token -/

/-- The lexer's own list agrees with the operators that the binder knows. -/
theorem operatorLexemes_eq :
    operatorLexemes = Operator.all.map Operator.lexeme := rfl

/-- The lexer's own list agrees with the connectives that the parser knows. -/
theorem connectiveLexemes_eq :
    connectiveLexemes = Connective.all.map Connective.lexeme := rfl

theorem token?_of_head_ne {lexicon : Lexicon} {text : List Char}
    (hopen : text.head? ≠ some '(') (hclose : text.head? ≠ some ')') :
    lexicon.token? text =
      ((lexicon.nameLength? text).map (TokenKind.property, ·)).or
        (((lexemeLength? (Operator.all.map Operator.lexeme) text).map
            (TokenKind.operator, ·)).or
          (((lexemeLength? (Connective.all.map Connective.lexeme) text).map
              (TokenKind.connective, ·)).or
            ((quotedLength? text).map (TokenKind.value, ·)))) := by
  unfold token?
  rw [if_neg hopen, if_neg hclose, operatorLexemes_eq, connectiveLexemes_eq]
  simp only [Option.orElse_eq_orElse, Option.orElse_eq_or]

/-- The token at the head of a text is a lexeme. -/
theorem exists_of_token? {names : List String} {text : List Char}
    {kind : TokenKind} {length : Nat}
    (htoken : (ofNames names).token? text = some (kind, length)) :
    ∃ lexeme rest,
      text = lexeme ++ rest ∧ lexeme.length = length ∧ lexeme ≠ [] ∧
        IsLexeme names kind lexeme rest := by
  by_cases hopen : text.head? = some '('
  · obtain ⟨rest, rfl⟩ := List.head?_eq_some_iff.mp hopen
    obtain ⟨rfl, rfl⟩ := Prod.mk.inj (Option.some.inj htoken)
    exact ⟨['('], rest, rfl, rfl, by simp, .openBracket rest⟩
  by_cases hclose : text.head? = some ')'
  · obtain ⟨rest, rfl⟩ := List.head?_eq_some_iff.mp hclose
    obtain ⟨rfl, rfl⟩ := Prod.mk.inj (Option.some.inj htoken)
    exact ⟨[')'], rest, rfl, rfl, by simp, .closeBracket rest⟩
  rw [token?_of_head_ne hopen hclose] at htoken
  simp only [Option.or_eq_some_iff, Option.map_eq_some_iff, Prod.mk.injEq]
    at htoken
  rcases htoken with ⟨_, hname, rfl, rfl⟩ | ⟨-, htoken⟩
  · exact exists_of_nameLength? hname
  rcases htoken with ⟨_, hoperator, rfl, rfl⟩ | ⟨-, htoken⟩
  · obtain ⟨lexeme, hlexeme, rest, rfl, rfl⟩ :=
      exists_of_lexemeLength? hoperator
    obtain ⟨op, -, rfl⟩ := List.mem_map.mp hlexeme
    have hne : op.lexeme.toList ≠ [] := by
      rw [← List.length_pos_iff, IsLexeme.length_operator]
      decide
    exact ⟨_, rest, rfl, rfl, hne, .operator op rest⟩
  rcases htoken with ⟨_, hconnective, rfl, rfl⟩ | ⟨-, _, hquoted, rfl, rfl⟩
  · obtain ⟨lexeme, hlexeme, rest, rfl, rfl⟩ :=
      exists_of_lexemeLength? hconnective
    obtain ⟨connective, -, rfl⟩ := List.mem_map.mp hlexeme
    have hne : connective.lexeme.toList ≠ [] := by
      rw [← List.length_pos_iff, IsLexeme.length_connective]
      decide
    exact ⟨_, rest, rfl, rfl, hne, .connective connective rest⟩
  · obtain ⟨inner, rest, rfl, hinner, rfl⟩ := exists_of_quotedLength? hquoted
    exact
      ⟨tick :: (inner ++ [tick]), rest, by simp, by simp, by simp,
        .value hinner rest⟩

/-- The lexeme as the lexicon measures it off. -/
theorem isLexeme_of_token? {names : List String} {c : Char} {text : List Char}
    {kind : TokenKind} {length : Nat}
    (htoken : (ofNames names).token? (c :: text) = some (kind, length)) :
    IsLexeme names kind (c :: text.take (length - 1))
      (text.drop (length - 1)) := by
  obtain ⟨lexeme, rest, hsplit, rfl, hne, hlexeme⟩ := exists_of_token? htoken
  cases lexeme with
  | nil => exact absurd rfl hne
  | cons d tail =>
      obtain ⟨rfl, rfl⟩ := List.cons.inj hsplit
      have htake : (tail ++ rest).take ((c :: tail).length - 1) = tail := by
        simp
      have hdrop : (tail ++ rest).drop ((c :: tail).length - 1) = rest := by
        simp
      have htail : tail.append rest = tail ++ rest := rfl
      rw [htail, htake, hdrop]
      exact hlexeme

theorem token?_isSome {names : List String}
    (hnames : ∀ name ∈ names, IsFieldName name) {kind : TokenKind}
    {lexeme rest : List Char} (hlexeme : IsLexeme names kind lexeme rest) :
    ((ofNames names).token? (lexeme ++ rest)).isSome = true := by
  by_cases hopen : (lexeme ++ rest).head? = some '('
  · unfold token?
    rw [if_pos hopen]
    rfl
  by_cases hclose : (lexeme ++ rest).head? = some ')'
  · unfold token?
    rw [if_neg hopen, if_pos hclose]
    rfl
  rw [token?_of_head_ne hopen hclose]
  simp only [Option.isSome_or, Option.isSome_map, Bool.or_eq_true]
  cases hlexeme with
  | openBracket => exact absurd rfl hopen
  | closeBracket => exact absurd rfl hclose
  | property hname hsame hend =>
      exact .inl (nameLength?_isSome hname (hnames _ hname).1 hsame hend)
  | operator op =>
      have hmem := List.mem_map_of_mem (f := Operator.lexeme) op.mem_all
      exact .inr (.inl (lexemeLength?_isSome hmem rest))
  | connective connective =>
      have hmem : connective.lexeme ∈ Connective.all.map Connective.lexeme := by
        cases connective <;> decide
      exact .inr (.inr (.inl (lexemeLength?_isSome hmem rest)))
  | @value inner hinner =>
      have hsplit :
          tick :: (inner ++ [tick]) ++ rest =
            tick :: (inner ++ tick :: rest) := by
        simp
      rw [hsplit, quotedLength?_append hinner]
      exact .inr (.inr (.inr rfl))

/-- A lexeme at the head of a text is the token there. -/
theorem token?_append {names : List String}
    (hnames : ∀ name ∈ names, IsFieldName name) {kind : TokenKind}
    {lexeme rest : List Char} (hlexeme : IsLexeme names kind lexeme rest) :
    (ofNames names).token? (lexeme ++ rest) = some (kind, lexeme.length) := by
  obtain ⟨⟨otherKind, length⟩, htoken⟩ :=
    Option.isSome_iff_exists.mp (token?_isSome hnames hlexeme)
  obtain ⟨other, otherRest, hsplit, rfl, -, hother⟩ := exists_of_token? htoken
  obtain ⟨rfl, rfl, -⟩ := hlexeme.unique hnames hother hsplit
  exact htoken

end Lexicon

end RecordFilter

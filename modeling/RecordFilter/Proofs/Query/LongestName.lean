import Mathlib.Order.Bounds.Basic
import RecordFilter.Proofs.Query.Lexing

/-!
# The longest name

Where several names start the rest of a query, the lexer takes the one with the
most characters. Names are compared character by character, so two names of the
same length that both start a text cover the same part of it, however many bytes
the names themselves have. Which of them is tried first does not matter, and
neither does the order in which the names are given.
-/

namespace RecordFilter

/-- The numbers of characters of the names that start a text, in any case of
their letters, and do not go on there. Empty names do not count. -/
def leadingLengths (names : List String) (text : List Char) : Set Nat :=
  { length | ∃ name ∈ names, name ≠ "" ∧ name.toList.length = length ∧
      ∃ spelling rest, text = spelling ++ rest ∧
        SameLetters spelling name.toList ∧ EndsName rest }

theorem leadingLengths_mono {left right : List String}
    (hnames : ∀ name, name ≠ "" → name ∈ left → name ∈ right)
    (text : List Char) :
    leadingLengths left text ⊆ leadingLengths right text := by
  rintro length ⟨name, hname, hne, hleads⟩
  exact ⟨name, hnames name hne hname, hne, hleads⟩

theorem leadingLengths_eq_of_same_names {left right : List String}
    (hsame : ∀ name, name ≠ "" → (name ∈ left ↔ name ∈ right))
    (text : List Char) :
    leadingLengths left text = leadingLengths right text := by
  apply Set.Subset.antisymm
  · exact leadingLengths_mono (fun name hne => (hsame name hne).mp) text
  · exact leadingLengths_mono (fun name hne => (hsame name hne).mpr) text

namespace Lexicon

/-! ## The first name that is found -/

theorem pairwise_names (names : List String) :
    (ofNames names).names.Pairwise fun left right =>
      right.length ≤ left.length := by
  have hsorted : (ofNames names).names.Pairwise fun left right =>
      decide (right.length ≤ left.length) = true := by
    apply List.pairwise_mergeSort
    · intro first second third hsecond hthird
      simp only [decide_eq_true_eq] at hsecond hthird ⊢
      omega
    · intro first second
      simp only [Bool.or_eq_true, decide_eq_true_eq]
      omega
  simpa only [decide_eq_true_eq] using hsorted

theorem mem_leadingLengths {names : List String} {name text : List Char}
    (hname : name ∈ (ofNames names).names)
    (hstands : standsAtHead text name = true) :
    name.length ∈ leadingLengths names text := by
  obtain ⟨hne, entry, hentry, rfl⟩ := mem_ofNames.mp hname
  refine ⟨entry, hentry, ?_, rfl, exists_of_standsAtHead hstands⟩
  rintro rfl
  exact hne rfl

theorem exists_of_mem_leadingLengths {names : List String} {text : List Char}
    {length : Nat} (hlength : length ∈ leadingLengths names text) :
    ∃ name ∈ (ofNames names).names,
      standsAtHead text name = true ∧ name.length = length := by
  obtain ⟨name, hname, hne, rfl, spelling, rest, rfl, hsame, hend⟩ := hlength
  have hkept : name.toList ≠ [] := by
    simpa using hne
  exact
    ⟨name.toList, mem_ofNames.mpr ⟨hkept, name, hname, rfl⟩,
      standsAtHead_append hsame hend, rfl⟩

/-- The names are tried from the longest on, so all that come behind the one
that is found are no longer, and none before it starts the text. -/
theorem isGreatest_of_nameLength? {names : List String} {text : List Char}
    {length : Nat} (hlength : (ofNames names).nameLength? text = some length) :
    IsGreatest (leadingLengths names text) length := by
  obtain ⟨found, hfind, rfl⟩ := Option.map_eq_some_iff.mp hlength
  obtain ⟨hstands, before, after, hsplit, hbefore⟩ :=
    List.find?_eq_some_iff_append.mp hfind
  have hlater : ∀ name ∈ after, name.length ≤ found.length := by
    have hsorted := pairwise_names names
    rw [hsplit, List.pairwise_append, List.pairwise_cons] at hsorted
    exact hsorted.2.1.1
  constructor
  · exact mem_leadingLengths (List.mem_of_find?_eq_some hfind) hstands
  · intro other hother
    obtain ⟨name, hname, hleads, rfl⟩ := exists_of_mem_leadingLengths hother
    rw [hsplit, List.mem_append, List.mem_cons] at hname
    rcases hname with hearlier | rfl | hname
    · have hpassed := hbefore name hearlier
      rw [hleads] at hpassed
      contradiction
    · exact Nat.le_refl _
    · exact hlater name hname

theorem nameLength?_eq_some_iff {names : List String} {text : List Char}
    {length : Nat} :
    (ofNames names).nameLength? text = some length ↔
      IsGreatest (leadingLengths names text) length := by
  constructor
  · exact isGreatest_of_nameLength?
  · intro hgreatest
    obtain ⟨name, hname, hstands, -⟩ :=
      exists_of_mem_leadingLengths hgreatest.1
    have hsome : ((ofNames names).nameLength? text).isSome = true := by
      rw [nameLength?, Option.isSome_map, List.find?_isSome]
      exact ⟨name, hname, hstands⟩
    obtain ⟨other, hother⟩ := Option.isSome_iff_exists.mp hsome
    rw [hother, (isGreatest_of_nameLength? hother).unique hgreatest]

/-! ## The same names in another order -/

theorem nameLength?_eq_of_same_names {left right : List String}
    (hsame : ∀ name, name ≠ "" → (name ∈ left ↔ name ∈ right))
    (text : List Char) :
    (ofNames left).nameLength? text = (ofNames right).nameLength? text := by
  apply Option.ext
  intro length
  rw [nameLength?_eq_some_iff, nameLength?_eq_some_iff,
    leadingLengths_eq_of_same_names hsame]

/-- A lexicon is used for nothing but the names at the head of a text. -/
theorem tokensFrom_congr {left right : Lexicon}
    (hsame : ∀ text, left.nameLength? text = right.nameLength? text)
    (position : Nat) (text : List Char) :
    left.tokensFrom position text = right.tokensFrom position text := by
  have htoken : ∀ text, left.token? text = right.token? text := by
    intro text
    rw [token?, hsame, token?]
  fun_induction tokensFrom left position text with
  | case1 position => rw [tokensFrom]
  | case2 position c rest hblank ih =>
      rw [tokensFrom, if_pos hblank, ih]
  | case3 position c rest hblank hnone =>
      rw [htoken] at hnone
      rw [tokensFrom, if_neg hblank, hnone]
  | case4 position c rest hblank kind length hsome lexeme stop error herror
      ih =>
      rw [htoken] at hsome
      rw [tokensFrom, if_neg hblank, hsome]
      simp only [← ih, herror, lexeme, stop]
  | case5 position c rest hblank kind length hsome lexeme stop tokens htokens
      ih =>
      rw [htoken] at hsome
      rw [tokensFrom, if_neg hblank, hsome]
      simp only [← ih, htokens, lexeme, stop]

/-! ## The places of tokens -/

variable {names : List String}

theorem nameLength?_of_token? {text : List Char} {length : Nat}
    (htoken : (ofNames names).token? text = some (.property, length)) :
    (ofNames names).nameLength? text = some length := by
  by_cases hopen : text.head? = some '('
  · simp [token?, hopen] at htoken
  by_cases hclose : text.head? = some ')'
  · simp [token?, hclose] at htoken
  rw [token?_of_head_ne hopen hclose] at htoken
  simpa [Option.or_eq_some_iff] using htoken

theorem length_lexeme_of_token? {c : Char} {rest : List Char}
    {kind : TokenKind} {length : Nat}
    (htoken : (ofNames names).token? (c :: rest) = some (kind, length)) :
    (c :: rest.take (length - 1)).length = length := by
  obtain ⟨lexeme, after, hsplit, rfl, hne, -⟩ := exists_of_token? htoken
  have hpositive : 0 < lexeme.length := List.length_pos_iff.mpr hne
  have hbound := congrArg List.length hsplit
  rw [List.length_cons, List.length_append] at hbound
  rw [List.length_cons, List.length_take]
  omega

/-- Every token is what the lexicon finds at the place of the token. -/
theorem exists_token?_of_tokensFrom {position : Nat} {text : List Char}
    {tokens : List Token}
    (htokens : (ofNames names).tokensFrom position text = .ok tokens) :
    ∀ token ∈ tokens, ∃ before rest,
      text = before ++ (token.text.toList ++ rest) ∧
      position + utf8Length before = token.span.start ∧
      (ofNames names).token? (token.text.toList ++ rest) =
        some (token.kind, token.text.toList.length) := by
  fun_induction tokensFrom (ofNames names) position text
    generalizing tokens with
  | case1 position =>
      obtain rfl := Except.ok.inj htokens
      simp
  | case2 position c rest hblank ih =>
      intro token htoken
      obtain ⟨before, after, rfl, hstart, hfound⟩ := ih htokens token htoken
      refine ⟨c :: before, after, rfl, ?_, hfound⟩
      rw [utf8Length_cons, ← Nat.add_assoc, hstart]
  | case3 => contradiction
  | case4 => contradiction
  | case5 position c rest hblank kind length hsome lexeme stop further
      hfurther =>
      rename_i ih
      obtain rfl := Except.ok.inj htokens
      have hwhole : c :: rest = lexeme ++ rest.drop (length - 1) := by
        simp [lexeme, List.take_append_drop]
      intro token htoken
      rcases List.mem_cons.mp htoken with rfl | hlater
      · refine ⟨[], rest.drop (length - 1), ?_, rfl, ?_⟩
        · rw [String.toList_ofList, List.nil_append, ← hwhole]
        · rw [String.toList_ofList, ← hwhole, length_lexeme_of_token? hsome,
            hsome]
      · obtain ⟨before, after, hsplit, hstart, hfound⟩ :=
          ih hfurther token hlater
        refine ⟨lexeme ++ before, after, ?_, ?_, hfound⟩
        · rw [hwhole, hsplit, List.append_assoc]
        · rw [utf8Length_append, ← Nat.add_assoc, ← hstart]

/-! ## Tokens -/

/-- Lexicons of the same names read every query alike, and wherever one of them
finds a name, it finds the longest one that stands there. -/
theorem tokenize_of_same_names {left right : List String}
    (hsame : ∀ name, name ≠ "" → (name ∈ left ↔ name ∈ right))
    (query : String) :
    (ofNames left).tokenize query = (ofNames right).tokenize query ∧
    (∀ text length, (ofNames left).token? text = some (.property, length) →
      IsGreatest (leadingLengths left text) length) ∧
    ∀ tokens, (ofNames left).tokenize query = .ok tokens →
      ∀ token ∈ tokens, token.kind = .property → ∃ before rest,
        query.toList = before ++ (token.text.toList ++ rest) ∧
        utf8Length before = token.span.start ∧
        IsGreatest (leadingLengths left (token.text.toList ++ rest))
          token.text.toList.length := by
  have hlongest : ∀ text length,
      (ofNames left).token? text = some (.property, length) →
        IsGreatest (leadingLengths left text) length := by
    intro text length htoken
    exact isGreatest_of_nameLength? (nameLength?_of_token? htoken)
  refine ⟨?_, hlongest, ?_⟩
  · exact tokensFrom_congr (nameLength?_eq_of_same_names hsame) 0 query.toList
  · intro tokens htokens token htoken hkind
    obtain ⟨before, rest, hsplit, hstart, hfound⟩ :=
      exists_token?_of_tokensFrom htokens token htoken
    rw [hkind] at hfound
    rw [Nat.zero_add] at hstart
    exact ⟨before, rest, hsplit, hstart, hlongest _ _ hfound⟩

/-- A small k and a Kelvin sign have one and three bytes, and each is a name
that the other one spells. A name is not found where a further letter follows
it. -/
theorem tokenize_of_same_names_kelvin :
    let left := ["k", "\u212A", "", "Key"]
    let right := ["\u212A", "Key", "k", "Key"]
    let tokens := [⟨.property, "KEY", ⟨0, 3⟩⟩, ⟨.property, "\u212A", ⟨4, 7⟩⟩]
    (∀ name, name ≠ "" → (name ∈ left ↔ name ∈ right)) ∧
      (ofNames left).tokenize "KEY \u212A" = .ok tokens ∧
      (ofNames right).tokenize "KEY \u212A" = .ok tokens ∧
      (ofNames right).tokenize "KEYS" = .error ⟨0, "KEYS"⟩ ∧
      IsGreatest (leadingLengths left "KEY \u212A".toList) 3 ∧
      ∀ token ∈ tokens, token.kind = .property → ∃ before rest,
        "KEY \u212A".toList = before ++ (token.text.toList ++ rest) ∧
        utf8Length before = token.span.start ∧
        IsGreatest (leadingLengths left (token.text.toList ++ rest))
          token.text.toList.length := by
  intro left right tokens
  have hsame : ∀ name, name ≠ "" → (name ∈ left ↔ name ∈ right) := by
    intro name hne
    simp only [left, right, List.mem_cons, List.not_mem_nil, hne]
    tauto
  have hread : ["KEY \u212A", "KEYS"].map (ofNames left).tokenize =
      [.ok tokens, .error ⟨0, "KEYS"⟩] := by
    rw [ofNames_eq_insertionSort]
    decide +kernel
  simp only [List.map_cons, List.map_nil, List.cons.injEq, and_true] at hread
  rcases hread with ⟨htokens, hstuck⟩
  have htoken : (ofNames left).token? "KEY \u212A".toList =
      some (.property, 3) := by
    rw [ofNames_eq_insertionSort]
    decide +kernel
  rcases tokenize_of_same_names hsame "KEY \u212A" with
    ⟨hquery, hlongest, hplaces⟩
  rcases tokenize_of_same_names hsame "KEYS" with ⟨hother, -⟩
  exact
    ⟨hsame, htokens, hquery.symm.trans htokens, hother.symm.trans hstuck,
      hlongest _ _ htoken, hplaces tokens htokens⟩

end Lexicon

end RecordFilter

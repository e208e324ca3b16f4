import RecordFilter.Proofs.Compiler.NameResolution

/-!
# Names that the binder knows

The binder compares names by their whole lower-case mappings, the lexer
character by character. The mapping of the dotted capital I has two characters,
of which the second, a combining dot, is no name character. So the two ways to
compare differ for texts in which a dot follows a letter i: these stand for
fields with the binder, but no query can hold them.
-/

namespace RecordFilter

variable {α : Type}

/-- The second character of the mapping of the dotted capital I. -/
def combiningDot : Char := '\u0307'

theorem isNameChar_combiningDot : isNameChar combiningDot = false := by
  decide

/-! ## The mapping without the dot -/

theorem eq_of_lowercase_eq_singleton {c d : Char} (hlower : lowercase c = [d])
    (hother : isNameChar d = false) : c = d := by
  unfold lowercase at hlower
  by_cases hdotted : c.toNat = 0x130
  · simp [hdotted] at hlower
  · rw [if_neg hdotted] at hlower
    cases hfind : CapitalRun.find? capitalRuns c.toNat with
    | none =>
        rw [hfind] at hlower
        exact List.singleton_inj.mp hlower
    | some small =>
        exfalso
        have hclass : isNameChar c = isNameChar d := by
          apply isNameChar_of_lowercase_eq_singleton
          unfold lowercase
          rw [if_neg hdotted]
          exact hlower
        have hletter := (CapitalRun.isNameChar_of_find? hfind).1
        rw [hother] at hclass
        simp [isNameChar, isAlphanumeric, hletter] at hclass

/-- What a character other than the dot itself is mapped to. -/
theorem lowercase_cases {c : Char} (hc : combiningDot ≠ c) :
    lowercase c = ['i', combiningDot] ∨
      ∃ d, lowercase c = [d] ∧ d ≠ combiningDot := by
  by_cases hdotted : c.toNat = 0x130
  · left
    exact lowercase_of_dotted hdotted
  · right
    rcases exists_lowercase_eq_singleton hdotted with ⟨d, hlower⟩
    refine ⟨d, hlower, ?_⟩
    intro hdot
    rw [hdot] at hlower
    exact hc
      (eq_of_lowercase_eq_singleton hlower isNameChar_combiningDot).symm

theorem head?_flatMap_lowercase_ne {text : List Char}
    (hfree : combiningDot ∉ text) :
    (text.flatMap lowercase).head? ≠ some combiningDot := by
  cases text with
  | nil => simp
  | cons c text =>
      rw [List.mem_cons, not_or] at hfree
      rcases lowercase_cases hfree.1 with hlower | ⟨d, hlower, hd⟩
      · have hletter : 'i' ≠ combiningDot := by
          decide
        simpa [hlower] using hletter
      · simpa [hlower] using hd

/-- The two ways to compare agree for texts without the dot: the dot of a
mapping always belongs to the letter before it. -/
theorem sameLetters_of_flatMap_lowercase {left right : List Char}
    (hleft : combiningDot ∉ left) (hright : combiningDot ∉ right)
    (hsame : left.flatMap lowercase = right.flatMap lowercase) :
    SameLetters left right := by
  induction left generalizing right with
  | nil =>
      cases right with
      | nil => rfl
      | cons d right =>
          rw [List.mem_cons, not_or] at hright
          rcases lowercase_cases hright.1 with hd | ⟨e, hd, -⟩ <;>
            simp [hd] at hsame
  | cons c left ih =>
      rw [List.mem_cons, not_or] at hleft
      cases right with
      | nil =>
          rcases lowercase_cases hleft.1 with hc | ⟨e, hc, -⟩ <;>
            simp [hc] at hsame
      | cons d right =>
          rw [List.mem_cons, not_or] at hright
          have hheadLeft := head?_flatMap_lowercase_ne hleft.2
          have hheadRight := head?_flatMap_lowercase_ne hright.2
          rw [SameLetters.cons_iff]
          rcases lowercase_cases hleft.1 with hc | ⟨x, hc, -⟩
          · rcases lowercase_cases hright.1 with hd | ⟨y, hd, -⟩
            · simp only [List.flatMap_cons, hc, hd,
                List.append_cancel_left_eq] at hsame
              exact ⟨hc.trans hd.symm, ih hleft.2 hright.2 hsame⟩
            · simp only [List.flatMap_cons, hc, hd, List.cons_append,
                List.nil_append, List.cons.injEq] at hsame
              rw [← hsame.2] at hheadRight
              exact absurd rfl hheadRight
          · rcases lowercase_cases hright.1 with hd | ⟨y, hd, -⟩
            · simp only [List.flatMap_cons, hc, hd, List.cons_append,
                List.nil_append, List.cons.injEq] at hsame
              rw [hsame.2] at hheadLeft
              exact absurd rfl hheadLeft
            · simp only [List.flatMap_cons, hc, hd, List.cons_append,
                List.nil_append, List.cons.injEq] at hsame
              rw [hc, hd, hsame.1]
              exact ⟨rfl, ih hleft.2 hright.2 hsame.2⟩

theorem combiningDot_notMem_of_isNameChar {text : List Char}
    (hchars : ∀ c ∈ text, isNameChar c = true) : combiningDot ∉ text := by
  intro hmem
  have hdot := hchars combiningDot hmem
  rw [isNameChar_combiningDot] at hdot
  contradiction

/-! ## Texts with the dot -/

/-- Ticks are not mapped to anything else, so what is like a name holds none. -/
theorem tick_notMem_of_sameName {name text : String} (hname : IsFieldName name)
    (hsame : sameName name text = true) : tick ∉ text.toList := by
  intro htick
  have hmapped : tick ∈ text.toList.flatMap lowercase :=
    List.mem_flatMap.mpr ⟨tick, htick, by decide⟩
  rw [← sameName_iff.mp hsame] at hmapped
  rcases List.mem_flatMap.mp hmapped with ⟨c, hc, hlower⟩
  have hletter := hname.2 c hc
  have hfree := combiningDot_notMem_of_isNameChar hname.2
  have hne : combiningDot ≠ c := by
    intro hdot
    rw [← hdot] at hc
    exact hfree hc
  rcases lowercase_cases hne with hdotted | ⟨d, hsingle, -⟩
  · rw [hdotted] at hlower
    revert hlower
    decide
  · rw [hsingle, List.mem_singleton] at hlower
    rw [isNameChar_of_lowercase_eq_singleton hsingle, ← hlower] at hletter
    contradiction

/-- In a query the dot may only stand between ticks. -/
theorem IsLexeme.tick_mem_of_combiningDot_mem {names : List String}
    (hnames : ∀ name ∈ names, IsFieldName name) {kind : TokenKind}
    {lexeme rest : List Char} (hlexeme : IsLexeme names kind lexeme rest)
    (hdot : combiningDot ∈ lexeme) : tick ∈ lexeme := by
  cases hlexeme with
  | value hinner => exact List.mem_cons_self
  | property hname hsame hend =>
      have hchars := hsame.isNameChar (hnames _ hname).2
      exact absurd hdot (combiningDot_notMem_of_isNameChar hchars)
  | openBracket | closeBracket =>
      revert hdot
      decide
  | operator op =>
      revert hdot
      cases op <;> decide
  | connective connective =>
      revert hdot
      cases connective <;> decide

theorem combiningDot_notMem_of_allBlank {text : List Char}
    (hblank : AllBlank text) : combiningDot ∉ text := by
  intro hdot
  have hmark := hblank combiningDot hdot
  revert hmark
  decide

theorem Piece.tick_mem_of_combiningDot_mem {names : List String}
    (hnames : ∀ name ∈ names, IsFieldName name) {pieces : List Piece}
    {trailing : List Char} (hreadable : Readable names pieces trailing)
    (hdot : combiningDot ∈ spell pieces trailing) :
    tick ∈ spell pieces trailing := by
  induction pieces with
  | nil => exact absurd hdot (combiningDot_notMem_of_allBlank hreadable)
  | cons piece pieces ih =>
      rcases hreadable with ⟨hblanks, hlexeme, hrest⟩
      simp only [spell, List.mem_append] at hdot ⊢
      rcases hdot with hblank | hinside | hafter
      · exact absurd hblank (combiningDot_notMem_of_allBlank hblanks)
      · exact .inr (.inl
          (hlexeme.tick_mem_of_combiningDot_mem hnames hinside))
      · exact .inr (.inr (ih hrest hafter))

/-! ## Texts that stand for fields -/

namespace Schema

theorem lookup_ne_unknown_iff {schema : Schema α} {text : String} :
    schema.lookup text ≠ .error (.unknown text) ↔
      ∃ name ∈ schema.names, sameName name text = true := by
  have hfilter : schema.fields.filter (sameName ·.name text) = [] ↔
      ∀ name ∈ schema.names, sameName name text = false := by
    simp [List.filter_eq_nil_iff, names]
  unfold lookup
  cases hcandidates : schema.fields.filter (sameName ·.name text) with
  | nil =>
      have hnone := hfilter.mp hcandidates
      simp only [ne_eq, not_true, false_iff]
      rintro ⟨name, hname, hsame⟩
      rw [hnone name hname] at hsame
      contradiction
  | cons field rest =>
      have hmem : field ∈ schema.fields.filter (sameName ·.name text) := by
        rw [hcandidates]
        exact List.mem_cons_self
      rcases List.mem_filter.mp hmem with ⟨hfield, hsame⟩
      have hname : field.name ∈ schema.names := List.mem_map_of_mem hfield
      refine iff_of_true ?_ ⟨field.name, hname, hsame⟩
      cases rest <;> simp

theorem tokenize_of_sameLetters {schema : Schema α} {name text : String}
    (hname : name ∈ schema.names)
    (hletters : SameLetters text.toList name.toList) :
    (Lexicon.ofNames schema.names).tokenize text =
      .ok [⟨.property, text, ⟨0, utf8Length text.toList⟩⟩] := by
  have hlexeme : IsLexeme schema.names .property text.toList [] :=
    .property hname hletters (by simp [EndsName])
  have hread :=
    Lexicon.tokensFrom_append_of_isLexeme isFieldName_of_mem_names hlexeme 0
  rw [List.append_nil, Lexicon.tokensFrom] at hread
  unfold Lexicon.tokenize
  simpa [Except.map] using hread

/-- A text that stands for fields of a schema is read as one name exactly if it
does not hold the combining dot. With the dot it cannot be read at all. -/
theorem tokenize_of_lookup (schema : Schema α) (text : String)
    (hknown : schema.lookup text ≠ .error (.unknown text)) :
    ((Lexicon.ofNames schema.names).tokenize text =
        .ok [⟨.property, text, ⟨0, utf8Length text.toList⟩⟩] ↔
      combiningDot ∉ text.toList) ∧
    (combiningDot ∈ text.toList →
      ∃ error, (Lexicon.ofNames schema.names).tokenize text =
        .error error) := by
  rcases lookup_ne_unknown_iff.mp hknown with ⟨name, hname, hsame⟩
  have hfieldName := schema.isFieldName_of_mem_names name hname
  have hrefused : combiningDot ∈ text.toList →
      ∃ error, (Lexicon.ofNames schema.names).tokenize text =
        .error error := by
    intro hdot
    cases htokens : (Lexicon.ofNames schema.names).tokenize text with
    | error error => exact ⟨error, rfl⟩
    | ok tokens =>
        exfalso
        rcases Lexicon.exists_readable_of_tokensFrom htokens with
          ⟨pieces, trailing, hreadable, hspell, -⟩
        rw [← hspell] at hdot
        have htick := Piece.tick_mem_of_combiningDot_mem
          isFieldName_of_mem_names hreadable hdot
        rw [hspell] at htick
        exact tick_notMem_of_sameName hfieldName hsame htick
  refine ⟨⟨?_, ?_⟩, hrefused⟩
  · intro htokens hdot
    rcases hrefused hdot with ⟨error, herror⟩
    rw [herror] at htokens
    contradiction
  · intro hfree
    have hletters := sameLetters_of_flatMap_lowercase hfree
      (combiningDot_notMem_of_isNameChar hfieldName.2)
      (sameName_iff.mp hsame).symm
    exact tokenize_of_sameLetters hname hletters

end Schema

/-- A capital K may be a Kelvin sign, which takes three bytes. -/
theorem Contact.tokenize_nickname_of_kelvin :
    schema.lookup "NIC\u212ANAME" ≠ .error (.unknown "NIC\u212ANAME") ∧
    (Lexicon.ofNames schema.names).tokenize "NIC\u212ANAME" =
      .ok [⟨.property, "NIC\u212ANAME", ⟨0, 10⟩⟩] := by
  have hsame : sameName "Nickname" "NIC\u212ANAME" = true := by
    decide
  have hknown :
      schema.lookup "NIC\u212ANAME" ≠ .error (.unknown "NIC\u212ANAME") :=
    Schema.lookup_ne_unknown_iff.mpr ⟨"Nickname", .tail _ (.head _), hsame⟩
  have hfree : combiningDot ∉ "NIC\u212ANAME".toList := by
    decide
  refine ⟨hknown, ?_⟩
  exact (Schema.tokenize_of_lookup schema _ hknown).1.mpr hfree

/-- The schema of one field whose name is the dotted capital I. -/
def dottedSchema : Schema Value where
  number := 0
  fields := [{ name := "\u0130", type := .int32, read := id }]
  names_valid := by
    have hvalid :=
      ((Schema.firstFault?_eq_none_iff [] ["\u0130"]).mp (by decide)).1
    simpa using hvalid
  names_distinct := by simp
  fields_owned := by simp

/-- The binder knows the spelling of the field with a dot of its own, the lexer
does not. -/
theorem not_tokenize_of_dotted_spelling :
    dottedSchema.lookup "i\u0307" ≠ .error (.unknown "i\u0307") ∧
    (Lexicon.ofNames dottedSchema.names).tokenize "i\u0307" ≠
      .ok [⟨.property, "i\u0307", ⟨0, 3⟩⟩] := by
  have hsame : sameName "\u0130" "i\u0307" = true := by
    decide
  refine ⟨Schema.lookup_ne_unknown_iff.mpr ⟨"\u0130", .head _, hsame⟩, ?_⟩
  have hnone : (Lexicon.ofNames dottedSchema.names).token?
      "i\u0307".toList = none := by
    decide +kernel
  have hblank : isBlank 'i' = false := by
    decide
  have hlist : "i\u0307".toList = ['i', combiningDot] := rfl
  rw [hlist] at hnone
  rw [Lexicon.tokenize, hlist, Lexicon.tokensFrom, hblank, hnone]
  simp

end RecordFilter

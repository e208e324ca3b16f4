import Mathlib.Data.List.Forall2
import RecordFilter.Json.Reader
import RecordFilter.Json.Writer
import RecordFilter.Proofs.GuidText

/-!
# The tokens of a text

A text is taken for the same tokens wherever it stands. A word or a number ends
at the first character that cannot go on with it, or with the whole text, so it
matters how the text behind it starts; brackets, commas, colons and strings end
by themselves, and blanks are no tokens. What is written as a sequence of parts
is therefore taken apart part by part.
-/

namespace RecordFilter

theorem foldlM_cons_of_eq_some {σ ι : Type} {step? : σ → ι → Option σ}
    {state next : σ} {item : ι} (hstep : step? state item = some next)
    (items : List ι) :
    (item :: items).foldlM step? state = items.foldlM step? next := by
  rw [List.foldlM_cons, hstep, Option.bind_eq_bind, Option.bind_some]

theorem foldlM_append_of_eq_some {σ ι : Type} {step? : σ → ι → Option σ}
    {state next : σ} {front : List ι}
    (hfront : front.foldlM step? state = some next) (back : List ι) :
    (front ++ back).foldlM step? state = back.foldlM step? next := by
  rw [List.foldlM_append, hfront, Option.bind_eq_bind, Option.bind_some]

namespace JsonScan

/-- The tokens when the rest of the text has been scanned, the last one
first. -/
def finish? (state : State) (rest : List Char) : Option (List JsonToken) :=
  (rest.foldlM step? state).bind ended?

/-- No word and no number goes on with the text. -/
def EndsTokens (text : List Char) : Prop :=
  ∀ c ∈ text.head?, c.isLower = false ∧ isNumeralChar c = false

/-- The text is taken for the tokens, whatever stands before it and behind
it. -/
def Scans (text : List Char) (tokens : List JsonToken) : Prop :=
  ∀ (before : List JsonToken) {rest : List Char}, EndsTokens rest →
    finish? ⟨before, .nothing⟩ (text ++ rest) =
      finish? ⟨tokens.reverse ++ before, .nothing⟩ rest

theorem endsTokens_nil : EndsTokens [] := by
  intro c hc
  contradiction

theorem EndsTokens.append {left right : List Char} (hleft : EndsTokens left)
    (hright : EndsTokens right) : EndsTokens (left ++ right) := by
  cases left with
  | nil => exact hright
  | cons c left => exact hleft

theorem finish?_cons {state next : State} {c : Char}
    (hstep : step? state c = some next) (rest : List Char) :
    finish? state (c :: rest) = finish? next rest := by
  rw [finish?, foldlM_cons_of_eq_some hstep, finish?]

theorem finish?_append {state next : State} {text : List Char}
    (htext : text.foldlM step? state = some next) (rest : List Char) :
    finish? state (text ++ rest) = finish? next rest := by
  rw [finish?, foldlM_append_of_eq_some htext, finish?]

/-! ## Texts put together -/

theorem scans_nil : Scans [] [] := by
  intro before rest _
  rfl

theorem Scans.append {left right : List Char}
    {leftTokens rightTokens : List JsonToken} (hleft : Scans left leftTokens)
    (hright : Scans right rightTokens) (hends : EndsTokens right) :
    Scans (left ++ right) (leftTokens ++ rightTokens) := by
  intro before rest hrest
  rw [List.append_assoc, hleft before (hends.append hrest),
    hright (leftTokens.reverse ++ before) hrest, List.reverse_append,
    List.append_assoc]

theorem tokens?_of_scans {text : List Char} {tokens : List JsonToken}
    (hscans : Scans text tokens) : tokens? text = some tokens := by
  have hwhole : finish? {} text = some tokens.reverse := by
    have hend := hscans [] endsTokens_nil
    rw [List.append_nil, List.append_nil] at hend
    exact hend
  have hmap : tokens? text = (finish? {} text).map List.reverse := rfl
  rw [hmap, hwhole, Option.map_some, List.reverse_reverse]

/-- The character is a token by itself and ends the one before it. -/
structure IsMark (c : Char) (token : JsonToken) : Prop where
  ends : c.isLower = false ∧ isNumeralChar c = false
  step?_eq : ∀ before,
    step? ⟨before, .nothing⟩ c = some ⟨token :: before, .nothing⟩

theorem isMark_openArray : IsMark '[' .openArray :=
  ⟨by decide, fun _ => rfl⟩

theorem isMark_closeArray : IsMark ']' .closeArray :=
  ⟨by decide, fun _ => rfl⟩

theorem isMark_openObject : IsMark '\x7b' .openObject :=
  ⟨by decide, fun _ => rfl⟩

theorem isMark_closeObject : IsMark '\x7d' .closeObject :=
  ⟨by decide, fun _ => rfl⟩

theorem isMark_comma : IsMark ',' .comma :=
  ⟨by decide, fun _ => rfl⟩

theorem isMark_colon : IsMark ':' .colon :=
  ⟨by decide, fun _ => rfl⟩

theorem IsMark.endsTokens {c : Char} {token : JsonToken}
    (hmark : IsMark c token) (text : List Char) : EndsTokens (c :: text) := by
  rintro d ⟨⟩
  exact hmark.ends

theorem IsMark.scans_cons {c : Char} {token : JsonToken}
    (hmark : IsMark c token) {text : List Char} {tokens : List JsonToken}
    (htext : Scans text tokens) : Scans (c :: text) (token :: tokens) := by
  intro before rest hrest
  rw [List.cons_append, finish?_cons (hmark.step?_eq before),
    htext (token :: before) hrest, List.reverse_cons, List.append_assoc,
    List.singleton_append]

/-- Blanks and ends of lines. -/
def AllSpaces (text : List Char) : Prop := ∀ c ∈ text, c = ' ' ∨ c = '\n'

theorem AllSpaces.endsTokens {spaces : List Char} (hspaces : AllSpaces spaces) :
    EndsTokens spaces := by
  intro c hc
  rcases hspaces c (List.mem_of_mem_head? hc) with hblank | hline
  · subst hblank
    decide
  · subst hline
    decide

theorem AllSpaces.scans_append {spaces : List Char}
    (hspaces : AllSpaces spaces) {text : List Char} {tokens : List JsonToken}
    (htext : Scans text tokens) : Scans (spaces ++ text) tokens := by
  have hskip : ∀ before,
      spaces.foldlM step? ⟨before, .nothing⟩ = some ⟨before, .nothing⟩ := by
    intro before
    induction spaces with
    | nil => rfl
    | cons c spaces ih =>
        have hstep : step? ⟨before, .nothing⟩ c = some ⟨before, .nothing⟩ := by
          rcases hspaces c List.mem_cons_self with hblank | hline
          · subst hblank
            rfl
          · subst hline
            rfl
        rw [foldlM_cons_of_eq_some hstep]
        exact ih fun d hd => hspaces d (List.mem_cons_of_mem c hd)
  intro before rest hrest
  rw [List.append_assoc, finish?_append (hskip before)]
  exact htext before hrest

/-- Parts with commas between them, each comma with blanks behind it. -/
theorem scans_intercalate {spaces : List Char} (hspaces : AllSpaces spaces)
    {parts : List (List Char)} {tokens : List (List JsonToken)}
    (hparts : List.Forall₂ Scans parts tokens) :
    Scans ((',' :: spaces).intercalate parts)
      ([JsonToken.comma].intercalate tokens) := by
  induction hparts with
  | nil => exact scans_nil
  | @cons part partTokens others otherTokens hpart hothers ih =>
      cases hothers with
      | nil =>
          rw [List.intercalate_singleton, List.intercalate_singleton]
          exact hpart
      | cons hnext hlater =>
          rw [List.intercalate_cons_cons, List.intercalate_cons_cons,
            List.append_assoc, List.append_assoc]
          exact hpart.append
            (isMark_comma.scans_cons (hspaces.scans_append ih))
            (isMark_comma.endsTokens _)

/-! ## Tokens of several characters -/

/-- The pending token takes characters of a class one by one. -/
def Gathers (pending : List Char → Pending) (test : Char → Bool) : Prop :=
  ∀ (before : List JsonToken) (taken : List Char) (c : Char), test c = true →
    step? ⟨before, pending taken⟩ c = some ⟨before, pending (c :: taken)⟩

section Gathered

variable {pending : List Char → Pending} {test : Char → Bool}
  {characters : List Char}

theorem foldlM_gathered (hgathers : Gathers pending test)
    (hcharacters : ∀ c ∈ characters, test c = true) (before : List JsonToken)
    (taken : List Char) :
    characters.foldlM step? ⟨before, pending taken⟩ =
      some ⟨before, pending (characters.reverse ++ taken)⟩ := by
  induction characters generalizing taken with
  | nil => rfl
  | cons c characters ih =>
      have hc := hgathers before taken c (hcharacters c List.mem_cons_self)
      rw [foldlM_cons_of_eq_some hc,
        ih fun d hd => hcharacters d (List.mem_cons_of_mem c hd),
        List.reverse_cons, List.append_assoc, List.singleton_append]

/-- A pending token is finished by the end of the text or by a character that it
does not take. -/
theorem finish?_of_ended {state : State} {tokens : List JsonToken}
    (hended : ended? state = some tokens) {rest : List Char}
    (hnext : ∀ c ∈ rest.head?,
      step? state c = (ended? state).bind (begin? · c)) :
    finish? state rest = finish? ⟨tokens, .nothing⟩ rest := by
  cases rest with
  | nil => exact hended
  | cons c rest =>
      have hstep : step? state c = step? ⟨tokens, .nothing⟩ c := by
        rw [hnext c rfl, hended, Option.bind_some]
        rfl
      rw [finish?, finish?, List.foldlM_cons, List.foldlM_cons, hstep]

theorem scans_gathered {c : Char} {token : JsonToken}
    (hgathers : Gathers pending test)
    (hfirst : ∀ before,
      step? ⟨before, .nothing⟩ c = some ⟨before, pending [c]⟩)
    (hcharacters : ∀ d ∈ characters, test d = true)
    (hended : ∀ before,
      ended? ⟨before, pending (characters.reverse ++ [c])⟩ =
        some (token :: before))
    (hother : ∀ (state : State) (taken : List Char) (d : Char),
      state.pending = pending taken → d.isLower = false →
        isNumeralChar d = false →
          step? state d = (ended? state).bind (begin? · d)) :
    Scans (c :: characters) [token] := by
  intro before rest hrest
  have hall := foldlM_gathered hgathers hcharacters before [c]
  rw [List.cons_append, finish?_cons (hfirst before), finish?_append hall]
  apply finish?_of_ended (hended before)
  intro d hd
  exact hother _ _ d rfl (hrest d hd).1 (hrest d hd).2

end Gathered

/-! ## Words -/

theorem isDigit_of_isLower {c : Char} (hlower : c.isLower = true) :
    c.isDigit = false := by
  have hbound := of_decide_eq_true (Bool.and_eq_true_iff.mp hlower).1
  have hletter : 97 ≤ c.toNat := UInt32.le_iff_toNat_le.mp hbound
  by_contra hdigit
  have hnumber : 48 ≤ c.toNat ∧ c.toNat ≤ 57 :=
    Char.isDigit_iff_toNat.mp (Bool.eq_true_of_not_eq_false hdigit)
  omega

theorem step?_of_isLower {c : Char} (hlower : c.isLower = true)
    (before : List JsonToken) :
    step? ⟨before, .nothing⟩ c = some ⟨before, .word [c]⟩ := by
  have hother : ∀ d : Char, d.isLower = false → c ≠ d := by
    intro d hd hsame
    rw [hsame, hd] at hlower
    contradiction
  simp [step?, begin?, isBlank, isDigit_of_isLower hlower, hlower, hother]

theorem scans_word {c : Char} {letters : List Char} {value : JsonValue}
    (hlower : ∀ d ∈ c :: letters, d.isLower = true)
    (hword : word? (c :: letters) = some value) :
    Scans (c :: letters) [.atom value] := by
  have hgathers : Gathers .word Char.isLower :=
    fun before taken d hd => if_pos hd
  apply scans_gathered hgathers
    (step?_of_isLower (hlower c List.mem_cons_self))
    fun d hd => hlower d (List.mem_cons_of_mem c hd)
  · intro before
    simp [ended?, hword]
  · intro state taken d hpending hd _
    simp [step?, hpending, hd]

theorem scans_null : Scans "null".toList [.atom .null] :=
  scans_word (List.all_eq_true.mp rfl) rfl

theorem scans_true : Scans "true".toList [.atom (.bool true)] :=
  scans_word (List.all_eq_true.mp rfl) rfl

theorem scans_false : Scans "false".toList [.atom (.bool false)] :=
  scans_word (List.all_eq_true.mp rfl) rfl

/-! ## Numbers -/

theorem step?_of_isDigit_or_minus {c : Char}
    (hstart : c.isDigit = true ∨ c = '-') (before : List JsonToken) :
    step? ⟨before, .nothing⟩ c = some ⟨before, .numeral [c]⟩ := by
  have hother : ∀ d : Char, d.isDigit = false → d ≠ '-' → c ≠ d := by
    intro d hd hminus hsame
    rw [hsame, hd] at hstart
    simp [hminus] at hstart
  simp [step?, begin?, isBlank, hstart, hother]

theorem scans_numeral {c : Char} {characters : List Char}
    {numeral : JsonNumeral} (hstart : c.isDigit = true ∨ c = '-')
    (hcharacters : ∀ c ∈ characters, isNumeralChar c = true)
    (hread : JsonNumeral.read? (c :: characters) = some numeral) :
    Scans (c :: characters) [.atom (.number numeral)] := by
  have hgathers : Gathers .numeral isNumeralChar :=
    fun before taken d hd => if_pos hd
  apply scans_gathered hgathers (step?_of_isDigit_or_minus hstart) hcharacters
  · intro before
    simp [ended?, hread]
  · intro state taken d hpending _ hd
    simp [step?, hpending, hd]

/-! ## Strings -/

/-- A control without a short form is written with the two digits of its
code. -/
theorem foldlM_controlCode {c : Char} (hcontrol : c.toNat < 0x20)
    (before : List JsonToken) (content : List Char) :
    ['\\', 'u', '0', '0', Nat.digitChar (c.toNat / 16),
        Nat.digitChar (c.toNat % 16)].foldlM step? ⟨before, .string content⟩ =
      some ⟨before, .string (c :: content)⟩ := by
  have hhigh : hexValue? (Nat.digitChar (c.toNat / 16)) = some (c.toNat / 16) :=
    hexValue?_digitChar (by omega)
  have hlow : hexValue? (Nat.digitChar (c.toNat % 16)) = some (c.toNat % 16) :=
    hexValue?_digitChar (by omega)
  have hzero : hexValue? '0' = some 0 := by
    decide
  have hcode : 16 * (c.toNat / 16) + c.toNat % 16 = c.toNat :=
    Nat.div_add_mod _ _
  have hchar : afterCode? content none c.toNat =
      some (.string (c :: content)) := by
    have hlead : ¬ (0xd800 ≤ c.toNat ∧ c.toNat < 0xdc00) := by omega
    have htrail : ¬ (0xdc00 ≤ c.toNat ∧ c.toNat < 0xe000) := by omega
    simp only [afterCode?, hlead, htrail, if_false, Char.ofNat_toNat]
  simp [step?, continue?, hzero, hhigh, hlow, hcode, hchar]

theorem foldlM_escape (c : Char) (before : List JsonToken)
    (content : List Char) :
    (JsonText.escape c).foldlM step? ⟨before, .string content⟩ =
      some ⟨before, .string (c :: content)⟩ := by
  by_cases hshort : c ∈ ['"', '\\', '\x08', '\t', '\n', '\x0c', '\r']
  · simp only [List.mem_cons, List.not_mem_nil, or_false] at hshort
    rcases hshort with hc | hc | hc | hc | hc | hc | hc <;>
      · subst hc
        rfl
  · simp only [List.mem_cons, List.not_mem_nil, or_false, not_or] at hshort
    by_cases hcontrol : c.toNat < 0x20
    · simp only [JsonText.escape, hshort, hcontrol, if_false, if_true]
      exact foldlM_controlCode hcontrol before content
    · simp [JsonText.escape, step?, continue?, hshort, hcontrol]

theorem foldlM_flatMap_escape (text : List Char) (before : List JsonToken)
    (content : List Char) :
    (text.flatMap JsonText.escape).foldlM step? ⟨before, .string content⟩ =
      some ⟨before, .string (text.reverse ++ content)⟩ := by
  induction text generalizing content with
  | nil => rfl
  | cons c text ih =>
      rw [List.flatMap_cons,
        foldlM_append_of_eq_some (foldlM_escape c before content), ih,
        List.reverse_cons, List.append_assoc, List.singleton_append]

theorem scans_quoted (text : String) :
    Scans (JsonText.quoted text).toList [.string text] := by
  intro before rest _
  have hopening : step? ⟨before, .nothing⟩ '"' = some ⟨before, .string []⟩ :=
    rfl
  have hcontent := foldlM_flatMap_escape text.toList before []
  have hclosing : step? ⟨before, .string (text.toList.reverse ++ [])⟩ '"' =
      some ⟨.string text :: before, .nothing⟩ := by
    simp [step?]
  rw [JsonText.quoted, String.toList_ofList, List.cons_append,
    List.append_assoc, finish?_cons hopening, finish?_append hcontent,
    List.singleton_append, finish?_cons hclosing]
  rfl

/-! ## Sequences between brackets -/

/-- The tokens of items with commas between them and marks around them. -/
def enclosed (opening closing : JsonToken) (items : List (List JsonToken)) :
    List JsonToken :=
  opening :: ([JsonToken.comma].intercalate items ++ [closing])

section Enclosed

variable {first last : Char} {opening closing : JsonToken}
  {parts : List String} {tokens : List (List JsonToken)}

theorem scans_enclosed (hfirst : IsMark first opening)
    (hlast : IsMark last closing) {before behind : List Char}
    (hbefore : AllSpaces before) (hbehind : AllSpaces behind)
    {spaces : List Char} (hspaces : AllSpaces spaces) {texts : List (List Char)}
    (htexts : List.Forall₂ Scans texts tokens) :
    Scans
      (first :: (before ++
        ((',' :: spaces).intercalate texts ++ (behind ++ [last]))))
      (enclosed opening closing tokens) := by
  have hend : Scans (behind ++ [last]) [closing] :=
    hbehind.scans_append (hlast.scans_cons scans_nil)
  have hends : EndsTokens (behind ++ [last]) :=
    hbehind.endsTokens.append (hlast.endsTokens [])
  have hinner := (scans_intercalate hspaces htexts).append hend hends
  exact hfirst.scans_cons (hbefore.scans_append hinner)

theorem allSpaces_nil : AllSpaces [] := by
  intro c hc
  contradiction

theorem AllSpaces.append {left right : List Char} (hleft : AllSpaces left)
    (hright : AllSpaces right) : AllSpaces (left ++ right) := by
  intro c hc
  rcases List.mem_append.mp hc with hc | hc
  · exact hleft c hc
  · exact hright c hc

theorem scans_inBrackets
    (hparts : List.Forall₂ (fun part => Scans part.toList) parts tokens) :
    Scans (JsonText.inBrackets parts).toList
      (enclosed .openArray .closeArray tokens) := by
  have hscans := scans_enclosed isMark_openArray isMark_closeArray
    allSpaces_nil allSpaces_nil allSpaces_nil
    (List.forall₂_map_left_iff.mpr hparts)
  rw [JsonText.inBrackets, String.toList_append, String.toList_append,
    String.toList_intercalate]
  exact hscans

theorem scans_inBraces
    (hparts : List.Forall₂ (fun part => Scans part.toList) parts tokens) :
    Scans (JsonText.inBraces parts).toList
      (enclosed .openObject .closeObject tokens) := by
  have hscans := scans_enclosed isMark_openObject isMark_closeObject
    allSpaces_nil allSpaces_nil allSpaces_nil
    (List.forall₂_map_left_iff.mpr hparts)
  rw [JsonText.inBraces, String.toList_append, String.toList_append,
    String.toList_intercalate]
  exact hscans

end Enclosed

end JsonScan

end RecordFilter

import RecordFilter.Proofs.Compiler.OnePass
import RecordFilter.Proofs.Filter.Rendering

/-!
# Names that a query cannot miss

The lexer finds names and operators by other means than the binder looks them
up. What the lexer takes for a name is like a name of the schema, and what it
takes for an operator is one, so a query that can be parsed never names anything
unknown. If it compiles, the fields of the leaves are those whose names the
lexer found.
-/

namespace RecordFilter

variable {α : Type}

/-! ## What the lexer finds -/

theorem SameLetters.flatMap_lowercase {left right : List Char}
    (hsame : SameLetters left right) :
    left.flatMap lowercase = right.flatMap lowercase := by
  rw [List.flatMap_def, List.flatMap_def]
  exact congrArg List.flatten hsame

theorem SameLetters.sameName {spelling name : String}
    (hsame : SameLetters spelling.toList name.toList) :
    sameName name spelling = true := by
  rw [sameName_iff]
  exact hsame.flatMap_lowercase.symm

namespace Lexicon

theorem exists_find?_of_isLexeme {names : List String}
    (hnames : ∀ name ∈ names, IsFieldName name) {spelling rest : List Char}
    (hlexeme : IsLexeme names .property spelling rest) :
    ∃ name ∈ names,
      (ofNames names).names.find? (standsAtHead (spelling ++ rest)) =
        some name.toList ∧
      SameLetters spelling name.toList := by
  have hsome :
      ((ofNames names).nameLength? (spelling ++ rest)).isSome = true := by
    cases hlexeme with
    | property hname hsame hend =>
        exact nameLength?_isSome hname (hnames _ hname).1 hsame hend
  rw [nameLength?, Option.isSome_map] at hsome
  obtain ⟨found, hfind⟩ := Option.isSome_iff_exists.mp hsome
  obtain ⟨-, name, hname, rfl⟩ :=
    mem_ofNames.mp (List.mem_of_find?_eq_some hfind)
  obtain ⟨other, otherRest, hsplit, hsame, hend⟩ :=
    exists_of_standsAtHead (List.find?_some hfind)
  obtain ⟨-, rfl, -⟩ :=
    hlexeme.unique hnames (.property hname hsame hend) hsplit
  exact ⟨name, hname, hfind, hsame⟩

/-- At the place of the token in the query the lexicon finds the name. -/
def FindsAt (lexicon : Lexicon) (query : String) (token : Token)
    (name : String) : Prop :=
  ∃ before rest,
    query.toList = before ++ (token.text.toList ++ rest) ∧
    utf8Length before = token.span.start ∧
    lexicon.names.find? (standsAtHead (token.text.toList ++ rest)) =
      some name.toList ∧
    SameLetters token.text.toList name.toList

end Lexicon

/-! ## What the binder can miss -/

/-- The error is about a name, an operator or a literal that the binder knows
how to look up. -/
inductive BindError.IsOfKnownNames : BindError → Prop
  | ambiguous (name : String) (candidates : List String) :
    IsOfKnownNames (.lookup (.ambiguous name candidates))
  | unsupportedOperator (operator field : String) (type : FieldType) :
    IsOfKnownNames (.unsupportedOperator operator field type)
  | invalidValue (text : String) (type : FieldType) (fault : LiteralFault) :
    IsOfKnownNames (.invalidValue text type fault)

namespace Schema

variable {schema : Schema α}

theorem lookup_eq_ok_or_ambiguous {name : String} {field : Field α}
    (hfield : field ∈ schema.fields) (hsame : sameName field.name name = true) :
    (∃ found, schema.lookup name = .ok found) ∨
      ∃ candidates,
        schema.lookup name = .error (.ambiguous name candidates) := by
  have hfound : field ∈ schema.fields.filter (sameName ·.name name) :=
    List.mem_filter.mpr ⟨hfield, hsame⟩
  unfold lookup
  cases hcandidates : schema.fields.filter (sameName ·.name name) with
  | nil =>
      rw [hcandidates] at hfound
      contradiction
  | cons first rest =>
      cases rest with
      | nil => exact .inl ⟨first, rfl⟩
      | cons second rest => exact .inr ⟨_, rfl⟩

theorem lookup_of_isLexeme {spelling : String} {rest : List Char}
    (hlexeme : IsLexeme schema.names .property spelling.toList rest) :
    (∃ found, schema.lookup spelling = .ok found) ∨
      ∃ candidates,
        schema.lookup spelling = .error (.ambiguous spelling candidates) := by
  generalize htext : spelling.toList = text at hlexeme
  cases hlexeme with
  | property hname hsame hend =>
      obtain ⟨field, hfield, rfl⟩ := List.mem_map.mp hname
      rw [← htext] at hsame
      exact lookup_eq_ok_or_ambiguous hfield hsame.sameName

theorem bindOperator_error {field : Field α} {token : Token}
    (hknown : (Operator.ofLexeme? token.text).isSome = true)
    {error : BindError} (hbind : bindOperator field token = .error error) :
    error.IsOfKnownNames := by
  obtain ⟨op, hop⟩ := Option.isSome_iff_exists.mp hknown
  simp only [bindOperator, hop] at hbind
  split at hbind
  · contradiction
  · rw [← Except.error.inj hbind]
    exact .unsupportedOperator _ _ _

theorem bindValue_error {field : Field α} {token : Token} {error : BindError}
    (hbind : bindValue field token = .error error) :
    error.IsOfKnownNames := by
  unfold bindValue at hbind
  split at hbind
  · contradiction
  · rw [← Except.error.inj hbind]
    exact .invalidValue _ _ _

end Schema

theorem Operator.ofLexeme?_isSome_of_isLexeme {names : List String}
    {text : String} {rest : List Char}
    (hlexeme : IsLexeme names .operator text.toList rest) :
    (ofLexeme? text).isSome = true := by
  generalize htext : text.toList = lexeme at hlexeme
  cases hlexeme with
  | operator op =>
      rw [String.toList_inj.mp htext, ofLexeme?_lexeme]
      rfl

namespace Schema

variable {schema : Schema α}

theorem bindComparison_error {property operator value : Token}
    (hproperty : property.IsSpelled schema.names .property)
    (hoperator : operator.IsSpelled schema.names .operator) {error : BindError}
    (hbind : schema.bindComparison property operator value = .error error) :
    error.IsOfKnownNames := by
  obtain ⟨-, _, hname⟩ := hproperty
  obtain ⟨-, _, hlexeme⟩ := hoperator
  rcases lookup_of_isLexeme hname with ⟨field, hlookup⟩ | ⟨names, hlookup⟩
  · simp only [bindComparison, hlookup] at hbind
    rcases Outcome.bind_eq_error_iff.mp hbind with hbad | ⟨op, -, hrest⟩
    · exact bindOperator_error
        (Operator.ofLexeme?_isSome_of_isLexeme hlexeme) hbad
    · rcases Outcome.bind_eq_error_iff.mp hrest with hbad | ⟨_, -, hdone⟩
      · exact bindValue_error hbad
      · contradiction
  · simp only [bindComparison, hlookup] at hbind
    rw [← Except.error.inj hbind]
    exact .ambiguous _ _

theorem bind_error {expr : Expr} (hspelled : expr.IsSpelled schema.names)
    {error : BindError} (hbind : schema.bind expr = .error error) :
    error.IsOfKnownNames := by
  induction expr with
  | comparison property operator value =>
      obtain ⟨hproperty, hoperator, -⟩ := Expr.isSpelled_comparison hspelled
      exact bindComparison_error hproperty hoperator
        (Outcome.map_eq_error_iff.mp hbind)
  | logical connective left right ihLeft ihRight =>
      obtain ⟨hleft, hright⟩ := Expr.isSpelled_logical hspelled
      rw [bind] at hbind
      rcases Outcome.bind_eq_error_iff.mp hbind with hbad | ⟨_, -, hrest⟩
      · exact ihLeft hleft hbad
      · rcases Outcome.bind_eq_error_iff.mp hrest with hbad | ⟨_, -, hdone⟩
        · exact ihRight hright hbad
        · contradiction

end Schema

/-! ## Queries -/

theorem Lexicon.exists_findsAt_of_tokenize {names : List String}
    (hnames : ∀ name ∈ names, IsFieldName name) {query : String}
    {tokens : List Token}
    (htokens : (ofNames names).tokenize query = .ok tokens)
    {token : Token} (htoken : token ∈ tokens) (hkind : token.kind = .property) :
    ∃ name ∈ names, (ofNames names).FindsAt query token name := by
  obtain ⟨pieces, trailing, hreadable, hspell, rfl⟩ :=
    exists_readable_of_tokensFrom htokens
  obtain ⟨before, rest, hsplit, hstart, hlexeme⟩ :=
    Piece.exists_place_of_mem_tokens hreadable 0 token htoken
  rw [hkind] at hlexeme
  obtain ⟨name, hname, hfind, hsame⟩ := exists_find?_of_isLexeme hnames hlexeme
  rw [hspell] at hsplit
  rw [Nat.zero_add] at hstart
  exact ⟨name, hname, before, rest, hsplit, hstart, hfind, hsame⟩

/-- A name that is like the text of a property is that of the field which the
property is bound to. -/
theorem Schema.name_eq_of_filter_eq {schema : Schema α} {text name : String}
    {field : Field α}
    (hfilter : schema.fields.filter (sameName ·.name text) = [field])
    (hname : name ∈ schema.names)
    (hsame : SameLetters text.toList name.toList) : name = field.name := by
  obtain ⟨other, hother, rfl⟩ := List.mem_map.mp hname
  rw [(field_iff_of_filter_eq hfilter hother).mp hsame.sameName]

namespace Compiler

theorem forall₂_findsAt_of_compile {compiler : Compiler α} {query : String}
    {tokens : List Token} {expr : Expr} {filter : Filter α}
    (htokens : compiler.lexicon.tokenize query = .ok tokens)
    (hparse : Expr.ofTokens compiler.options.limits tokens = .ok expr)
    (hbind : compiler.schema.bind expr = .ok filter) :
    List.Forall₂
      (fun comparison leaf => leaf.field ∈ compiler.schema.fields ∧
        compiler.lexicon.FindsAt query comparison.1 leaf.field.name)
      expr.comparisons filter.comparisons := by
  obtain ⟨scope, rfl, -, rfl⟩ := Folding.exists_scope_of_ofTokens hparse
  have hfound : ∀ comparison ∈ scope.tree.comparisons,
      ∃ name ∈ compiler.schema.names,
        compiler.lexicon.FindsAt query comparison.1 name := by
    intro comparison hmem
    have hholds := scope.holdsComparison comparison hmem
    exact Lexicon.exists_findsAt_of_tokenize Schema.isFieldName_of_mem_names
      htokens hholds.property_mem hholds.property_kind
  have hleaves := Schema.forall₂_bindComparison_of_bind hbind
  apply List.Forall₂.imp _ ((List.forall₂_and_left _ _).mpr ⟨hfound, hleaves⟩)
  rintro ⟨property, operator, value⟩ leaf ⟨⟨name, hname, hfinds⟩, hleaf⟩
  obtain ⟨hfilter, -, -⟩ := Schema.bindComparison_eq_ok_iff.mp hleaf
  obtain ⟨before, rest, hsplit, hstart, hfind, hsame⟩ := hfinds
  obtain rfl := Schema.name_eq_of_filter_eq hfilter hname hsame
  exact
    ⟨(Schema.isTyped_of_bindComparison hleaf).field_mem, before, rest, hsplit,
      hstart, hfind, hsame⟩

theorem isKnown_of_token? (compiler : Compiler α) {text : List Char}
    {kind : TokenKind} {length : Nat}
    (htoken : compiler.lexicon.token? text = some (kind, length)) :
    let word := String.ofList (text.take length)
    (kind = .property →
      (∃ field, compiler.schema.lookup word = .ok field) ∨
        ∃ candidates, compiler.schema.lookup word =
          .error (.ambiguous word candidates)) ∧
    (kind = .operator → (Operator.ofLexeme? word).isSome = true) := by
  obtain ⟨lexeme, rest, rfl, rfl, -, hlexeme⟩ :=
    Lexicon.exists_of_token? htoken
  rw [List.take_left]
  rw [← @String.toList_ofList lexeme] at hlexeme
  constructor
  · rintro rfl
    exact Schema.lookup_of_isLexeme hlexeme
  · rintro rfl
    exact Operator.ofLexeme?_isSome_of_isLexeme hlexeme

/-- Binding a query that was parsed fails for no unknown name and no unknown
operator, and the fields of a compiled filter are those whose names the lexer
found, because the binder knows whatever the lexer takes for a name or an
operator. -/
theorem compile_resolves_names (compiler : Compiler α) :
    (∀ query error, compiler.compile query = .error (.bind error) →
      error.IsOfKnownNames) ∧
    (∀ query predicate, compiler.compile query = .ok predicate →
      ∃ expr, compiler.parse query = .ok expr ∧
        compiler.schema.bind expr = .ok predicate.filter ∧
        List.Forall₂
          (fun comparison leaf => leaf.field ∈ compiler.schema.fields ∧
            compiler.lexicon.FindsAt query comparison.1 leaf.field.name)
          expr.comparisons predicate.filter.comparisons) ∧
    ∀ text kind length,
      compiler.lexicon.token? text = some (kind, length) →
        let word := String.ofList (text.take length)
        (kind = .property →
          (∃ field, compiler.schema.lookup word = .ok field) ∨
            ∃ candidates, compiler.schema.lookup word =
              .error (.ambiguous word candidates)) ∧
        (kind = .operator → (Operator.ofLexeme? word).isSome = true) := by
  refine ⟨?_, ?_, ?_⟩
  · intro query error hcompile
    obtain ⟨tokens, expr, htokens, hparse, hbind⟩ :=
      exists_of_compile_eq_bind_error hcompile
    obtain ⟨-, hlexed⟩ := tokenize_eq_ok_iff.mp htokens
    exact Schema.bind_error (Expr.isSpelled_of_ofTokens hlexed hparse) hbind
  · intro query predicate hcompile
    obtain ⟨tokens, expr, filter, htokens, hparse, hbind, rfl⟩ :=
      compile_eq_ok_iff_stages.mp hcompile
    obtain ⟨-, hlexed⟩ := tokenize_eq_ok_iff.mp htokens
    exact
      ⟨expr, parse_eq_ok_iff.mpr ⟨tokens, htokens, hparse⟩, hbind,
        forall₂_findsAt_of_compile hlexed hparse hbind⟩
  · intro text kind length htoken
    exact compiler.isKnown_of_token? htoken

/-- One query fails for its literal; the names of another one are found although
their letters have another case. -/
theorem compile_resolves_names_contact :
    (∃ error,
      OnePass.contactCompiler.compile "age == 'x'" = .error (.bind error) ∧
      error.IsOfKnownNames) ∧
    (∃ predicate expr,
      OnePass.contactCompiler.compile OnePass.contactQuery = .ok predicate ∧
      OnePass.contactCompiler.parse OnePass.contactQuery = .ok expr ∧
      Contact.schema.bind expr = .ok predicate.filter ∧
      List.Forall₂
        (fun comparison leaf => leaf.field ∈ Contact.schema.fields ∧
          OnePass.contactCompiler.lexicon.FindsAt OnePass.contactQuery
            comparison.1 leaf.field.name)
        expr.comparisons predicate.filter.comparisons) ∧
    (Operator.ofLexeme? ">>").isSome = true := by
  obtain ⟨hfails, hsucceeds, hknows⟩ :=
    compile_resolves_names OnePass.contactCompiler
  refine ⟨?_, ?_, ?_⟩
  · have hfailure : (OnePass.contactCompiler.compile "age == 'x'").map
        (fun _ => ()) =
        .error (.bind (.invalidValue "x" .int32 (.integer .invalidDigit))) := by
      simp only [compile, bind, parse, tokenize, lexicon,
        Lexicon.ofNames_eq_insertionSort]
      decide +kernel
    have herror := Outcome.map_eq_error_iff.mp hfailure
    exact ⟨_, herror, hfails _ _ herror⟩
  · obtain ⟨predicate, hcompile, -⟩ := OnePass.exists_compile_contactQuery
    obtain ⟨expr, hnames⟩ := hsucceeds _ _ hcompile
    exact ⟨predicate, expr, hcompile, hnames⟩
  · have htoken : OnePass.contactCompiler.lexicon.token? ">> '3'".toList =
        some (.operator, 2) := by
      rw [lexicon, Lexicon.ofNames_eq_insertionSort]
      decide +kernel
    exact (hknows _ _ _ htoken).2 rfl

end Compiler

end RecordFilter

import RecordFilter.Proofs.Compiler.OnePass
import RecordFilter.Proofs.Filter.Leaves
import RecordFilter.Proofs.Query.Reading

/-!
# Schemas with more fields

A schema may be given further fields without a change to the queries over it, if
every new name can be told from the old ones. A new name may go on where an old
one ends or end before it; the lexemes of a query stay what they are, because a
name always ends where its characters end. And no new field is a candidate where
an old one was found.
-/

namespace RecordFilter

variable {α : Type}

/-! ## The same filter over another schema -/

def Field.inSchema (field : Field α) (number : Nat) : Field α :=
  { field with schema := number }

def Comparison.inSchema (leaf : Comparison α) (number : Nat) : Comparison α :=
  { leaf with field := leaf.field.inSchema number }

/-- The filter of the same shape, with the same operators and values, whose
fields are those of another schema. -/
def Filter.inSchema (number : Nat) : Filter α → Filter α
  | .comparison leaf => .comparison (leaf.inSchema number)
  | .logical connective left right =>
      .logical connective (left.inSchema number) (right.inSchema number)

theorem Filter.evaluate_inSchema (filter : Filter α) (number : Nat)
    (record : α) :
    (filter.inSchema number).evaluate record = filter.evaluate record := by
  induction filter with
  | comparison leaf => rfl
  | logical connective left right ihLeft ihRight =>
      simp only [inSchema, evaluate_logical, ihLeft, ihRight]

/-! ## More names -/

theorem IsLexeme.mono {names more : List String} (hmore : names ⊆ more)
    {kind : TokenKind} {lexeme rest : List Char}
    (hlexeme : IsLexeme names kind lexeme rest) :
    IsLexeme more kind lexeme rest := by
  cases hlexeme with
  | openBracket => exact .openBracket rest
  | closeBracket => exact .closeBracket rest
  | operator op => exact .operator op rest
  | connective connective => exact .connective connective rest
  | value hinner => exact .value hinner rest
  | property hname hsame hend => exact .property (hmore hname) hsame hend

theorem Piece.Readable.mono {names more : List String} (hmore : names ⊆ more)
    {pieces : List Piece} {trailing : List Char}
    (hreadable : Readable names pieces trailing) :
    Readable more pieces trailing := by
  induction pieces with
  | nil => exact hreadable
  | cons piece pieces ih =>
      obtain ⟨hblanks, hlexeme, hrest⟩ := hreadable
      exact ⟨hblanks, hlexeme.mono hmore, ih hrest⟩

theorem Lexicon.tokenize_of_subset {names more : List String}
    (hvalid : ∀ name ∈ more, IsFieldName name) (hmore : names ⊆ more)
    {query : String} {tokens : List Token}
    (htokens : (ofNames names).tokenize query = .ok tokens) :
    (ofNames more).tokenize query = .ok tokens := by
  obtain ⟨pieces, trailing, hreadable, hspell, rfl⟩ :=
    exists_readable_of_tokensFrom htokens
  rw [tokenize, ← hspell]
  exact tokensFrom_spell hvalid (hreadable.mono hmore) 0

/-! ## Extensions -/

namespace Schema

/-- The larger schema has the fields of the other one, in their order, and
besides them only fields whose names differ from theirs in more than case. -/
structure Extends (larger schema : Schema α) : Prop where
  sublist : List.Sublist (schema.fields.map (·.inSchema larger.number))
    larger.fields
  fresh : ∀ field ∈ larger.fields, field.name ∉ schema.names →
    ∀ name ∈ schema.names, sameName field.name name = false

namespace Extends

variable {larger schema : Schema α}

theorem inSchema_mem (hextends : larger.Extends schema) {field : Field α}
    (hfield : field ∈ schema.fields) :
    field.inSchema larger.number ∈ larger.fields :=
  hextends.sublist.subset (List.mem_map_of_mem hfield)

theorem names_subset (hextends : larger.Extends schema) :
    schema.names ⊆ larger.names := by
  intro name hname
  obtain ⟨field, hfield, rfl⟩ := List.mem_map.mp hname
  exact List.mem_map.mpr ⟨_, hextends.inSchema_mem hfield, rfl⟩

/-- A name that stands for one field alone stands for the same field in the
larger schema. -/
theorem filter_eq (hextends : larger.Extends schema) {name : String}
    {field : Field α}
    (hfilter : schema.fields.filter (sameName ·.name name) = [field]) :
    larger.fields.filter (sameName ·.name name) =
      [field.inSchema larger.number] := by
  have hfound : field ∈ schema.fields.filter (sameName ·.name name) := by
    rw [hfilter]
    exact List.mem_singleton_self field
  obtain ⟨hfield, hname⟩ := List.mem_filter.mp hfound
  have hlarger := hextends.inSchema_mem hfield
  apply filter_eq_singleton hlarger
  intro other hother
  constructor
  · intro hsame
    by_cases hold : other.name ∈ schema.names
    · obtain ⟨old, holdMem, holdName⟩ := List.mem_map.mp hold
      have hcandidate : sameName old.name name = true := by
        rw [holdName]
        exact hsame
      obtain rfl := (field_iff_of_filter_eq hfilter holdMem).mp hcandidate
      exact field_eq_of_name_eq hother hlarger holdName.symm
    · -- A new name like this one would be like the name of the field.
      have hfresh := hextends.fresh other hother hold field.name
        (List.mem_map_of_mem hfield)
      have hlike : sameName other.name field.name = true := by
        rw [sameName_iff, sameName_iff.mp hsame]
        exact (sameName_iff.mp hname).symm
      rw [hlike] at hfresh
      contradiction
  · rintro rfl
    exact hname

theorem bindComparison (hextends : larger.Extends schema)
    {property operator value : Token} {leaf : Comparison α}
    (hbind : schema.bindComparison property operator value = .ok leaf) :
    larger.bindComparison property operator value =
      .ok (leaf.inSchema larger.number) := by
  obtain ⟨hfilter, hoperator, hread⟩ := bindComparison_eq_ok_iff.mp hbind
  exact bindComparison_eq_ok_iff.mpr
    ⟨hextends.filter_eq hfilter, hoperator, hread⟩

theorem bind (hextends : larger.Extends schema) {expr : Expr}
    {filter : Filter α} (hbind : schema.bind expr = .ok filter) :
    larger.bind expr = .ok (filter.inSchema larger.number) := by
  induction expr generalizing filter with
  | comparison property operator value =>
      obtain ⟨leaf, hleaf, rfl⟩ := bind_comparison_eq_ok_iff.mp hbind
      exact bind_comparison_eq_ok_iff.mpr
        ⟨_, hextends.bindComparison hleaf, rfl⟩
  | logical connective left right ihLeft ihRight =>
      obtain ⟨leftFilter, hleft, rightFilter, hright, rfl⟩ :=
        bind_logical_eq_ok_iff.mp hbind
      exact bind_logical_eq_ok_iff.mpr
        ⟨_, ihLeft hleft, _, ihRight hright, rfl⟩

end Extends

end Schema

/-- A query that compiles over a schema has the same tokens and the same
expression over every extension of it, and compiles there to the same filter,
with the fields of the extension. -/
theorem Compiler.compile_of_extends (compiler : Compiler α) {larger : Schema α}
    (hextends : larger.Extends compiler.schema) {query : String}
    {predicate : Predicate α}
    (hcompile : compiler.compile query = .ok predicate) :
    ∃ tokens expr again,
      compiler.tokenize query = .ok tokens ∧
      tokenize { compiler with schema := larger } query = .ok tokens ∧
      Expr.ofTokens compiler.options.limits tokens = .ok expr ∧
      compiler.schema.bind expr = .ok predicate.filter ∧
      compile { compiler with schema := larger } query = .ok again ∧
      larger.bind expr = .ok again.filter ∧
      again.filter = predicate.filter.inSchema larger.number ∧
      ∀ record, again.accepts record = predicate.accepts record := by
  obtain ⟨tokens, expr, filter, htokens, hparse, hbind, rfl⟩ :=
    compile_eq_ok_iff_stages.mp hcompile
  obtain ⟨hlength, hlexed⟩ := tokenize_eq_ok_iff.mp htokens
  have hagain :
      tokenize { compiler with schema := larger } query = .ok tokens :=
    tokenize_eq_ok_iff.mpr ⟨hlength,
      Lexicon.tokenize_of_subset Schema.isFieldName_of_mem_names
        hextends.names_subset hlexed⟩
  have hlarger := hextends.bind hbind
  refine ⟨tokens, expr, _, htokens, hagain, hparse, hbind,
    compile_eq_ok_iff_stages.mpr
      ⟨tokens, expr, _, hagain, hparse, hlarger, rfl⟩, hlarger, rfl, ?_⟩
  intro record
  simp only [Predicate.withSource, Predicate.ofFilter,
    Filter.prepare_eq_evaluate, Filter.evaluate_inSchema]

/-! ## A larger address book -/

namespace Contact

/-- A field whose name another one starts with. -/
def agField : Field Contact where
  name := "Ag"
  type := .boolean
  read contact := .boolean (contact.age == 47)
  schema := 1

/-- A field whose name goes on after another one. -/
def ageGroupField : Field Contact where
  name := "Age.Group"
  type := .string
  read contact := .string (if contact.age < 18 then "young" else "adult")
  schema := 1

theorem firstFault?_largerNames :
    Schema.firstFault? [] ["Ag", "Age", "Age.Group", "Nickname"] = none := by
  decide

def largerSchema : Schema Contact where
  number := 1
  fields :=
    [agField, ageField.inSchema 1, ageGroupField, nicknameField.inSchema 1]
  names_valid := by
    have hvalid :=
      ((Schema.firstFault?_eq_none_iff _ _).mp firstFault?_largerNames).1
    simpa [agField, ageField, ageGroupField, nicknameField, Field.inSchema]
      using hvalid
  names_distinct :=
    ((Schema.firstFault?_eq_none_iff _ _).mp firstFault?_largerNames).2.2
  fields_owned := by simp [agField, ageGroupField, Field.inSchema]

theorem largerSchema_extends : largerSchema.Extends schema where
  sublist := .cons _ (.cons_cons _ (.cons _ (.cons_cons _ .slnil)))
  fresh := by
    have hfresh : ∀ new ∈ ["Ag", "Age", "Age.Group", "Nickname"],
        new ∉ ["Age", "Nickname"] →
          ∀ name ∈ ["Age", "Nickname"], sameName new name = false := by
      decide
    intro field hfield
    exact hfresh field.name (List.mem_map_of_mem hfield)

theorem compile_of_extends_contactQuery :
    ∃ predicate tokens expr again,
      OnePass.contactCompiler.compile OnePass.contactQuery = .ok predicate ∧
      OnePass.contactCompiler.tokenize OnePass.contactQuery = .ok tokens ∧
      Compiler.tokenize ⟨largerSchema, {}⟩ OnePass.contactQuery = .ok tokens ∧
      Expr.ofTokens {} tokens = .ok expr ∧
      schema.bind expr = .ok predicate.filter ∧
      Compiler.compile ⟨largerSchema, {}⟩ OnePass.contactQuery = .ok again ∧
      largerSchema.bind expr = .ok again.filter ∧
      again.filter = predicate.filter.inSchema 1 ∧
      ∀ record, again.accepts record = predicate.accepts record := by
  obtain ⟨predicate, hcompile, -⟩ := OnePass.exists_compile_contactQuery
  obtain ⟨tokens, expr, again, hsame⟩ :=
    OnePass.contactCompiler.compile_of_extends largerSchema_extends hcompile
  exact ⟨predicate, tokens, expr, again, hcompile, hsame⟩

end Contact

end RecordFilter

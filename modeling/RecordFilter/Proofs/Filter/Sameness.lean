import RecordFilter.Compiler
import RecordFilter.Proofs.Compiler.Stages
import RecordFilter.Proofs.Filter.Evaluation
import RecordFilter.Proofs.Filter.OperatorLaws
import RecordFilter.Proofs.Filter.Rendering
import RecordFilter.Proofs.Query.Recognition
import RecordFilter.Proofs.Schema.Fields

/-!
# Filters that ask the same

Two filters of a schema that ask the same have the same answers for all records,
although their literals may have been written differently. To ask the same is an
equivalence of the filters that are bound from expressions; of other filters it
is not, because a filter that compares with NaN does not ask the same as itself.
-/

namespace RecordFilter

variable {α : Type}

/-! ## Equal literals -/

/-- Values that are equal without being the same are numbers, which no operator
takes for texts. -/
theorem Operator.holds_congr {first second : Value}
    (hequals : first.equals second = true) (op : Operator) (actual : Value) :
    op.holds actual first = op.holds actual second := by
  rcases Value.equals_cases hequals with
    ⟨firstNumber, secondNumber, hfirst, hsecond, -⟩ | ⟨hsame, -⟩
  · subst hfirst hsecond
    have horder := (Value.order?_eq_eq_iff rfl).mpr hequals
    cases hop : op.isTextual with
    | false =>
        rw [holds_eq_ofOrder hop, holds_eq_ofOrder hop,
          Value.order?_congr_right horder]
    | true =>
        cases op with
        | startsWith | endsWith | contains =>
            simp [holds, isOrdering, holdsOfTexts, Value.text?]
        | greater | greaterOrEqual | less | lessOrEqual | equal | notEqual =>
            contradiction
  · rw [hsame]

/-! ## Comparisons -/

namespace Comparison

variable {leaf other third : Comparison α}

theorem isSame_iff :
    leaf.isSame other = true ↔
      (leaf.field.schema = other.field.schema ∧
        leaf.field.name = other.field.name) ∧
      leaf.operator = other.operator ∧
      leaf.value.equals other.value = true := by
  simp [isSame, Field.isSame, and_assoc]

theorem isSame_symm (hsame : leaf.isSame other = true) :
    other.isSame leaf = true := by
  rw [isSame_iff] at hsame ⊢
  rcases hsame with ⟨⟨hschema, hname⟩, hoperator, hvalue⟩
  exact ⟨⟨hschema.symm, hname.symm⟩, hoperator.symm, Value.equals_symm hvalue⟩

theorem isSame_trans (hleft : leaf.isSame other = true)
    (hright : other.isSame third = true) : leaf.isSame third = true := by
  rw [isSame_iff] at hleft hright ⊢
  rcases hleft with ⟨⟨hschema, hname⟩, hoperator, hvalue⟩
  rcases hright with ⟨⟨hschema', hname'⟩, hoperator', hvalue'⟩
  exact
    ⟨⟨hschema.trans hschema', hname.trans hname'⟩,
      hoperator.trans hoperator', Value.equals_trans hvalue hvalue'⟩

/-- Fields of one schema that have the same name are the same. -/
theorem evaluate_eq_of_isSame {schema : Schema α}
    (hleaf : leaf.field ∈ schema.fields) (hother : other.field ∈ schema.fields)
    (hsame : leaf.isSame other = true) (record : α) :
    leaf.evaluate record = other.evaluate record := by
  rcases isSame_iff.mp hsame with ⟨⟨-, hname⟩, hoperator, hvalue⟩
  have hfield := Schema.field_eq_of_name_eq hleaf hother hname
  rw [evaluate, evaluate, hfield, hoperator,
    Operator.holds_congr hvalue other.operator]

end Comparison

/-! ## Filters -/

namespace Filter

variable {filter other third : Filter α}

theorem comparison_isSame_iff {leaf : Comparison α} :
    (comparison leaf).isSame other = true ↔
      ∃ otherLeaf, other = .comparison otherLeaf ∧
        leaf.isSame otherLeaf = true := by
  cases other with
  | comparison otherLeaf => simp [isSame]
  | logical connective left right => simp [isSame]

theorem logical_isSame_iff {connective : Connective} {left right : Filter α} :
    (logical connective left right).isSame other = true ↔
      ∃ otherLeft otherRight, other = .logical connective otherLeft otherRight ∧
        left.isSame otherLeft = true ∧ right.isSame otherRight = true := by
  cases other with
  | comparison otherLeaf => simp [isSame]
  | logical otherConnective otherLeft otherRight =>
      simp only [isSame, Bool.and_eq_true, beq_iff_eq, logical.injEq]
      constructor
      · rintro ⟨⟨hconnective, hleft⟩, hright⟩
        exact
          ⟨otherLeft, otherRight, ⟨hconnective.symm, rfl, rfl⟩, hleft, hright⟩
      · rintro ⟨_, _, ⟨hconnective, rfl, rfl⟩, hleft, hright⟩
        exact ⟨⟨hconnective.symm, hleft⟩, hright⟩

theorem isSame_symm (hsame : filter.isSame other = true) :
    other.isSame filter = true := by
  induction filter generalizing other with
  | comparison leaf =>
      rcases comparison_isSame_iff.mp hsame with ⟨otherLeaf, hother, hleaf⟩
      subst other
      exact Comparison.isSame_symm hleaf
  | logical connective left right ihLeft ihRight =>
      rcases logical_isSame_iff.mp hsame with
        ⟨otherLeft, otherRight, hother, hleft, hright⟩
      subst other
      exact logical_isSame_iff.mpr
        ⟨left, right, rfl, ihLeft hleft, ihRight hright⟩

theorem isSame_trans (hfirst : filter.isSame other = true)
    (hsecond : other.isSame third = true) : filter.isSame third = true := by
  induction filter generalizing other third with
  | comparison leaf =>
      rcases comparison_isSame_iff.mp hfirst with ⟨otherLeaf, hother, hleaf⟩
      subst other
      rcases comparison_isSame_iff.mp hsecond with
        ⟨thirdLeaf, hthird, hotherLeaf⟩
      subst third
      exact Comparison.isSame_trans hleaf hotherLeaf
  | logical connective left right ihLeft ihRight =>
      rcases logical_isSame_iff.mp hfirst with
        ⟨otherLeft, otherRight, hother, hleft, hright⟩
      subst other
      rcases logical_isSame_iff.mp hsecond with
        ⟨thirdLeft, thirdRight, hthird, hotherLeft, hotherRight⟩
      subst third
      exact logical_isSame_iff.mpr
        ⟨thirdLeft, thirdRight, rfl, ihLeft hleft hotherLeft,
          ihRight hright hotherRight⟩

theorem evaluate_eq_of_isSame {schema : Schema α}
    (hfilter : ∀ leaf ∈ filter.comparisons, leaf.field ∈ schema.fields)
    (hother : ∀ leaf ∈ other.comparisons, leaf.field ∈ schema.fields)
    (hsame : filter.isSame other = true) (record : α) :
    filter.evaluate record = other.evaluate record := by
  induction filter generalizing other with
  | comparison leaf =>
      rcases comparison_isSame_iff.mp hsame with ⟨otherLeaf, rfl, hleaf⟩
      exact Comparison.evaluate_eq_of_isSame
        (hfilter leaf (List.mem_singleton_self leaf))
        (hother otherLeaf (List.mem_singleton_self otherLeaf)) hleaf record
  | logical connective left right ihLeft ihRight =>
      rcases logical_isSame_iff.mp hsame with
        ⟨otherLeft, otherRight, rfl, hleft, hright⟩
      rcases List.forall_mem_append.mp hfilter with ⟨hleftFields, hrightFields⟩
      rcases List.forall_mem_append.mp hother with
        ⟨hotherLeftFields, hotherRightFields⟩
      rw [evaluate_logical, evaluate_logical,
        ihLeft hleftFields hotherLeftFields hleft,
        ihRight hrightFields hotherRightFields hright]

end Filter

/-! ## Filters of a schema -/

namespace Schema

/-- The filters that expressions are bound to. -/
def BoundFilter (schema : Schema α) : Type :=
  {filter : Filter α // ∃ expr, schema.bind expr = .ok filter}

variable {schema : Schema α}

theorem BoundFilter.isTyped (filter : schema.BoundFilter) :
    ∀ leaf ∈ filter.1.comparisons, leaf.IsTyped schema := by
  rcases filter.2 with ⟨expr, hbind⟩
  exact isTyped_of_bind hbind

theorem BoundFilter.isSame_refl (filter : schema.BoundFilter) :
    filter.1.isSame filter.1 = true :=
  Filter.isSame_self fun leaf hleaf =>
    (filter.isTyped leaf hleaf).literal.not_nan

theorem BoundFilter.evaluate_eq_of_isSame {filter other : schema.BoundFilter}
    (hsame : filter.1.isSame other.1 = true) (record : α) :
    filter.1.evaluate record = other.1.evaluate record :=
  Filter.evaluate_eq_of_isSame
    (fun leaf hleaf => (filter.isTyped leaf hleaf).field_mem)
    (fun leaf hleaf => (other.isTyped leaf hleaf).field_mem) hsame record

end Schema

/-! ## Queries that are compiled twice -/

/-- Tokens are read as one expression only, whatever the limits are. -/
theorem Expr.eq_of_ofTokens {limits otherLimits : Limits}
    {tokens : List Token} {expr other : Expr}
    (hexpr : ofTokens limits tokens = .ok expr)
    (hother : ofTokens otherLimits tokens = .ok other) : expr = other := by
  rcases Folding.exists_scope_of_ofTokens hexpr with ⟨scope, hscope, -, htree⟩
  rcases Folding.exists_scope_of_ofTokens hother with
    ⟨otherScope, hotherScope, -, hotherTree⟩
  have hsame : scope = otherScope :=
    Grammar.Scope.tokens_injective (hscope.trans hotherScope.symm)
  rw [← htree, ← hotherTree, hsame]

namespace Compiler

variable {schema : Schema α} {options : CompilerOptions} {query : String}
  {predicate : Predicate α}

theorem exists_boundFilter_of_compile
    (hcompile : compile ⟨schema, options⟩ query = .ok predicate) :
    ∃ filter : schema.BoundFilter, filter.1 = predicate.filter := by
  rcases compile_eq_ok_iff_stages.mp hcompile with
    ⟨tokens, expr, filter, -, -, hbind, hpredicate⟩
  subst predicate
  exact ⟨⟨filter, expr, hbind⟩, rfl⟩

theorem filter_eq_of_compile {otherOptions : CompilerOptions}
    {again : Predicate α}
    (hcompile : compile ⟨schema, options⟩ query = .ok predicate)
    (hagain : compile ⟨schema, otherOptions⟩ query = .ok again) :
    predicate.filter = again.filter := by
  rcases compile_eq_ok_iff_stages.mp hcompile with
    ⟨tokens, expr, filter, htokens, hparse, hbind, hpredicate⟩
  rcases compile_eq_ok_iff_stages.mp hagain with
    ⟨others, otherExpr, otherFilter, hothers, hotherParse, hotherBind,
      hotherPredicate⟩
  have hsame : tokens = others := by
    have hlexed := (tokenize_eq_ok_iff.mp htokens).2
    exact Except.ok.inj (hlexed.symm.trans (tokenize_eq_ok_iff.mp hothers).2)
  subst others
  have hexpr := Expr.eq_of_ofTokens hparse hotherParse
  subst otherExpr
  have hfilter : filter = otherFilter :=
    Except.ok.inj (hbind.symm.trans hotherBind)
  rw [← hpredicate, ← hotherPredicate, hfilter]

end Compiler

/-- To ask the same is an equivalence of the filters of a schema, a query that
is compiled again asks the same, and filters that ask the same have the same
answers, looked up in the filters or asked of their predicates. -/
theorem Schema.isSame_sound (schema : Schema α) :
    Equivalence (fun filter other : schema.BoundFilter =>
      filter.1.isSame other.1 = true) ∧
    (∀ options otherOptions query predicate again,
      Compiler.compile ⟨schema, options⟩ query = .ok predicate →
      Compiler.compile ⟨schema, otherOptions⟩ query = .ok again →
        predicate.filter.isSame again.filter = true) ∧
    ∀ filter other : schema.BoundFilter,
      filter.1.isSame other.1 = true → ∀ record,
        filter.1.evaluate record = other.1.evaluate record ∧
        (Predicate.ofFilter filter.1).accepts record =
          (Predicate.ofFilter other.1).accepts record := by
  refine ⟨⟨BoundFilter.isSame_refl, Filter.isSame_symm, Filter.isSame_trans⟩,
    ?_, ?_⟩
  · intro options otherOptions query predicate again hcompile hagain
    rcases Compiler.exists_boundFilter_of_compile hcompile with
      ⟨filter, hfilter⟩
    rw [← Compiler.filter_eq_of_compile hcompile hagain, ← hfilter]
    exact filter.isSame_refl
  · intro filter other hsame record
    have hevaluate := BoundFilter.evaluate_eq_of_isSame hsame record
    refine ⟨hevaluate, ?_⟩
    rw [Predicate.ofFilter, Predicate.ofFilter, Filter.prepare_eq_evaluate,
      Filter.prepare_eq_evaluate]
    exact hevaluate

/-! ## Measurements -/

structure Measurement where
  amount : Double
  kind : String
  time : Instant

namespace Measurement

def kinds : List String := ["Raw", "Mean"]

def fields : List (Field Measurement) :=
  [{ name := "Amount", type := .float64, read := (.float64 ·.amount) },
    { name := "Kind", type := .enum kinds, read := (.enum ·.kind) },
    { name := "Time", type := .dateTime, read := (.dateTime ·.time) }]

theorem firstFault?_fields :
    Schema.firstFault? [] (fields.map Field.name) = none := by
  decide

def schema : Schema Measurement where
  number := 0
  fields := fields
  names_valid := by
    have hvalid :=
      ((Schema.firstFault?_eq_none_iff _ _).mp firstFault?_fields).1
    simpa using hvalid
  names_distinct :=
    ((Schema.firstFault?_eq_none_iff _ _).mp firstFault?_fields).2.2
  fields_owned := by simp [fields]

def query : String :=
  "Amount << '0' && Kind == 'mean' || Time >= '2024-05-01T12:00:00Z'"

def expr : Expr :=
  .logical .or
    (.logical .and
      (.comparison ⟨.property, "Amount", ⟨0, 6⟩⟩ ⟨.operator, "<<", ⟨7, 9⟩⟩
        ⟨.value, "'0'", ⟨10, 13⟩⟩)
      (.comparison ⟨.property, "Kind", ⟨17, 21⟩⟩ ⟨.operator, "==", ⟨22, 24⟩⟩
        ⟨.value, "'mean'", ⟨25, 31⟩⟩))
    (.comparison ⟨.property, "Time", ⟨35, 39⟩⟩ ⟨.operator, ">=", ⟨40, 42⟩⟩
      ⟨.value, "'2024-05-01T12:00:00Z'", ⟨43, 65⟩⟩)

/-- Every literal of `expr` in another form. -/
def otherExpr : Expr :=
  .logical .or
    (.logical .and
      (.comparison ⟨.property, "amount", ⟨0, 6⟩⟩ ⟨.operator, "<<", ⟨7, 9⟩⟩
        ⟨.value, "'-0'", ⟨10, 14⟩⟩)
      (.comparison ⟨.property, "kind", ⟨18, 22⟩⟩ ⟨.operator, "==", ⟨23, 25⟩⟩
        ⟨.value, "'1'", ⟨26, 29⟩⟩))
    (.comparison ⟨.property, "time", ⟨33, 37⟩⟩ ⟨.operator, ">=", ⟨38, 40⟩⟩
      ⟨.value, "'2024-05-01 14:00:00+02:00'", ⟨41, 68⟩⟩)

/-- Just enough for the query. -/
def tightOptions : CompilerOptions where
  limits := ⟨0, 3⟩
  maxLength := some 65

theorem parse_query : Compiler.parse ⟨schema, {}⟩ query = .ok expr := by
  simp only [Compiler.parse, Compiler.tokenize, Compiler.lexicon,
    Lexicon.ofNames_eq_insertionSort]
  decide +kernel

theorem parse_query_tight :
    Compiler.parse ⟨schema, tightOptions⟩ query = .ok expr := by
  simp only [Compiler.parse, Compiler.tokenize, Compiler.lexicon,
    Lexicon.ofNames_eq_insertionSort]
  decide +kernel

theorem exists_filters :
    ∃ filter other, schema.bind expr = .ok filter ∧
      schema.bind otherExpr = .ok other ∧ filter.isSame other = true ∧
      filter.render ≠ other.render := by
  have hsummary : ((schema.bind expr).toOption.map fun filter =>
      (schema.bind otherExpr).toOption.map fun other =>
        (filter.isSame other, filter.render == other.render)) =
      some (some (true, false)) := by
    decide +kernel
  rcases Outcome.toOption_map_eq_some_iff.mp hsummary with
    ⟨filter, hfilter, hrest⟩
  rcases Outcome.toOption_map_eq_some_iff.mp hrest with
    ⟨other, hother, hanswers⟩
  simp only [Prod.mk.injEq, beq_eq_false_iff_ne] at hanswers
  exact ⟨filter, other, hfilter, hother, hanswers⟩

/-- Two filters that are rendered differently ask the same, and so do the
filters of a query that is compiled with other options. -/
theorem isSame_sound_measurement :
    ∃ filter other : schema.BoundFilter,
      schema.bind expr = .ok filter.1 ∧ schema.bind otherExpr = .ok other.1 ∧
      filter.1.isSame other.1 = true ∧ filter.1.render ≠ other.1.render ∧
      other.1.isSame filter.1 = true ∧
      (∀ record, filter.1.evaluate record = other.1.evaluate record ∧
        (Predicate.ofFilter filter.1).accepts record =
          (Predicate.ofFilter other.1).accepts record) ∧
      ∃ predicate again,
        Compiler.compile ⟨schema, {}⟩ query = .ok predicate ∧
        Compiler.compile ⟨schema, tightOptions⟩ query = .ok again ∧
        predicate.filter.isSame again.filter = true := by
  rcases exists_filters with ⟨filter, other, hbind, hother, hsame, hrender⟩
  rcases Schema.isSame_sound schema with ⟨hequivalence, hcompiled, hanswers⟩
  have hcompile : ∃ predicate,
      Compiler.compile ⟨schema, {}⟩ query = .ok predicate :=
    ⟨_, Compiler.compile_eq_ok_iff.mpr
      ⟨filter, Compiler.bind_eq_ok_iff.mpr ⟨expr, parse_query, hbind⟩, rfl⟩⟩
  have hagain : ∃ again,
      Compiler.compile ⟨schema, tightOptions⟩ query = .ok again :=
    ⟨_, Compiler.compile_eq_ok_iff.mpr
      ⟨filter, Compiler.bind_eq_ok_iff.mpr ⟨expr, parse_query_tight, hbind⟩,
        rfl⟩⟩
  rcases hcompile with ⟨predicate, hcompile⟩
  rcases hagain with ⟨again, hagain⟩
  let bound : schema.BoundFilter := ⟨filter, expr, hbind⟩
  let otherBound : schema.BoundFilter := ⟨other, otherExpr, hother⟩
  exact
    ⟨bound, otherBound, hbind, hother, hsame, hrender,
      @Equivalence.symm _ _ hequivalence bound otherBound hsame,
      hanswers bound otherBound hsame, predicate, again, hcompile, hagain,
      hcompiled _ _ _ _ _ hcompile hagain⟩

end Measurement

end RecordFilter

import RecordFilter.Proofs.Compiler.Stages
import RecordFilter.Proofs.Filter.Rendering

/-!
# Compiling the text of a predicate

The text of a compiled predicate is a query itself. If the values of all fields
are written exactly, it compiles over the same schema to the same filter, within
limits that leave room for the levels of the tree.
-/

namespace RecordFilter

namespace Compiler

variable {α : Type}

theorem isRestorable_of_compile {compiler : Compiler α}
    (hexact : ∀ field ∈ compiler.schema.fields, field.type.IsExact)
    {query : String} {predicate : Predicate α}
    (hcompile : compiler.compile query = .ok predicate) :
    ∀ leaf ∈ predicate.filter.comparisons,
      leaf.IsRestorable compiler.schema := by
  obtain ⟨tokens, expr, filter, htokens, hparse, hbind, rfl⟩ :=
    compile_eq_ok_iff_stages.mp hcompile
  obtain ⟨-, hlexed⟩ := tokenize_eq_ok_iff.mp htokens
  have hspelled : expr.IsSpelled compiler.schema.names :=
    Expr.isSpelled_of_ofTokens hlexed hparse
  exact Schema.isRestorable_of_bind hexact hspelled hbind

/-- The text of a predicate compiles to the same filter, and so to the same
text. -/
theorem compile_render (compiler : Compiler α)
    (hexact : ∀ field ∈ compiler.schema.fields, field.type.IsExact)
    {query : String} {predicate : Predicate α}
    (hcompile : compiler.compile query = .ok predicate)
    (options : CompilerOptions) (hlength : options.maxLength = none)
    (hnesting : predicate.filter.depth ≤ options.limits.nesting)
    (hdepth : predicate.filter.depth ≤ options.limits.treeDepth) :
    ∃ again,
      compile { compiler with options := options } predicate.render =
        .ok again ∧
      again.filter = predicate.filter ∧
      again.filter.isSame predicate.filter = true ∧
      again.render = predicate.render := by
  have hleaves := isRestorable_of_compile hexact hcompile
  have hnumbers : ∀ leaf ∈ predicate.filter.comparisons,
      leaf.value.isNaN = false := by
    intro leaf hmem
    exact (FieldType.isLiteralOf_read (hleaves leaf hmem).read_text).not_nan
  obtain ⟨tokens, expr, htokens, hparse, hbind⟩ :=
    Filter.read_render hleaves (Nat.le_succ_of_le hnesting) hdepth
  refine ⟨(Predicate.ofFilter predicate.filter).withSource predicate.render,
    ?_, rfl, Filter.isSame_self hnumbers, rfl⟩
  have hlexed :
      tokenize { compiler with options := options } predicate.render =
        .ok tokens :=
    tokenize_eq_ok_iff.mpr ⟨by simp [hlength], htokens⟩
  exact compile_eq_ok_iff_stages.mpr
    ⟨tokens, expr, predicate.filter, hlexed, hparse, hbind, rfl⟩

end Compiler

/-! ## Parcels -/

structure Parcel where
  express : Bool
  weight : Int32
  number : Int64
  sender : String
  sent : Date
  code : Guid
  size : String

namespace Parcel

def sizes : List String := ["Small", "Large"]

def fields : List (Field Parcel) :=
  [{ name := "Express", type := .boolean, read := (.boolean ·.express) },
    { name := "Weight", type := .int32, read := (.int32 ·.weight) },
    { name := "Number", type := .int64, read := (.int64 ·.number) },
    { name := "Sender", type := .string, read := (.string ·.sender) },
    { name := "Sent", type := .date, read := (.date ·.sent) },
    { name := "Code", type := .guid, read := (.guid ·.code) },
    { name := "Size", type := .enum sizes, read := (.enum ·.size) }]

theorem firstFault?_fields :
    Schema.firstFault? [] (fields.map Field.name) = none := by
  decide

def schema : Schema Parcel where
  number := 0
  fields := fields
  names_valid := by
    have hvalid :=
      ((Schema.firstFault?_eq_none_iff _ _).mp firstFault?_fields).1
    simpa using hvalid
  names_distinct :=
    ((Schema.firstFault?_eq_none_iff _ _).mp firstFault?_fields).2.2
  fields_owned := by simp [fields]

theorem arePlainVariants_sizes : ArePlainVariants sizes where
  trimmed := by decide
  withoutTick := by decide
  distinct := by decide

theorem isExact_fields : ∀ field ∈ schema.fields, field.type.IsExact := by
  simp [schema, fields, FieldType.IsExact, arePlainVariants_sizes]

def compiler : Compiler Parcel where
  schema := schema

/-- A query in which only the string is written the way it is rendered. -/
def query : String :=
  "EXPRESS == ' True' && weight >= '+07' || Number << '-009' &&
    Sender @= ' x ' && sent >> '2024-2-29' && size != '1' &&
    Code == 'urn:uuid:67E55044-10B1-426F-9247-BB680E5FE0C8'"

theorem compile_render_query :
    ∃ predicate again,
      compiler.compile query = .ok predicate ∧
      Compiler.compile ⟨schema, ⟨⟨7, 7⟩, none⟩⟩ predicate.render =
        .ok again ∧
      again.filter = predicate.filter ∧
      again.filter.isSame predicate.filter = true ∧
      again.render = predicate.render := by
  have hlevels :
      (compiler.compile query).toOption.map (·.filter.depth) = some 7 := by
    simp only [Compiler.compile, Compiler.bind, Compiler.parse,
      Compiler.tokenize, Compiler.lexicon, Lexicon.ofNames_eq_insertionSort]
    decide +kernel
  obtain ⟨predicate, hcompile, hseven⟩ :=
    Outcome.toOption_map_eq_some_iff.mp hlevels
  obtain ⟨again, hagain⟩ :=
    compiler.compile_render isExact_fields hcompile ⟨⟨7, 7⟩, none⟩ rfl
      (Nat.le_of_eq hseven) (Nat.le_of_eq hseven)
  exact ⟨predicate, again, hcompile, hagain⟩

end Parcel

end RecordFilter

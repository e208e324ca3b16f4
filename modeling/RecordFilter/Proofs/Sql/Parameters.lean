import RecordFilter.Proofs.Calendar.InstantText
import RecordFilter.Proofs.Compiler.Stages
import RecordFilter.Proofs.Filter.Rendering
import RecordFilter.Proofs.Json.Documents
import RecordFilter.Proofs.Rows.Declarations
import RecordFilter.Proofs.Rows.Reading

/-!
# Parameters read back

The parameters of a statement are printed as a JSON array that can be read, with
one item for each comparison. An item stands for the value of its comparison
except in two cases. A date and time is not read if its year needs a sign. A
number of double precision is not read if it is infinite, and otherwise it is
read as the number that rounding its decimal in two steps leads to.
-/

namespace RecordFilter

/-! ## Values in JSON -/

/-- The value comes back from JSON. -/
def Value.SurvivesJson : Value → Prop
  | .float64 number => number.SurvivesJson
  | .dateTime instant => instant.HasFourDigitYear
  | _ => True

instance : DecidablePred Value.SurvivesJson
  | .float64 number => inferInstanceAs (Decidable number.SurvivesJson)
  | .dateTime instant => inferInstanceAs (Decidable instant.HasFourDigitYear)
  | .null | .boolean _ | .int32 _ | .int64 _ | .string _ | .date _ | .guid _ |
    .enum _ => .isTrue trivial

theorem Value.jsonDouble_of_finite {negative : Bool}
    {rank : Fin (Double.infinityRank + 1)}
    (hfinite : rank.val < Double.infinityRank) :
    jsonDouble (.number negative rank) =
      .number (.double (.number negative rank)) :=
  if_neg hfinite.ne

theorem Value.fits_jsonDouble (number : Double) :
    (jsonDouble number).Fits JsonNumeral.IsReadable 0 := by
  cases number with
  | nan => exact .null 0
  | number negative rank =>
      by_cases hinfinite : rank.val = Double.infinityRank
      · rw [jsonDouble, if_pos hinfinite]
        exact .null 0
      · have hfinite : rank.val < Double.infinityRank :=
          Nat.lt_of_le_of_ne (Nat.le_of_lt_succ rank.isLt) hinfinite
        rw [jsonDouble_of_finite hfinite]
        exact .number 0 hfinite

/-- Every value can be written as JSON and read again. -/
theorem Value.fits_toJson (value : Value) :
    value.toJson.Fits JsonNumeral.IsReadable 0 := by
  cases value with
  | null => exact .null 0
  | boolean flag => exact .bool 0 flag
  | int32 value =>
      have hlow := value.le_toInt
      have hhigh := value.toInt_lt
      exact .number 0 ⟨by omega, by omega⟩
  | int64 value =>
      have hlow := value.le_toInt
      have hhigh := value.toInt_lt
      exact .number 0 ⟨by omega, by omega⟩
  | float64 number => exact fits_jsonDouble number
  | string | date | dateTime | guid | enum => exact .string 0 _

theorem IsExactValue.readAs_toJson {type : FieldType} {value : Value}
    (hvalue : IsExactValue type value) (hdeclarable : type.IsDeclarable) :
    value.toJson.reread.readAs type = value := by
  have hread := hvalue.read_text
  cases hvalue with
  | boolean | string => rfl
  | int32 value => exact JsonValue.readAs_int32 value
  | int64 value => exact JsonValue.readAs_int64 value
  | date | guid =>
      simp only [Value.text] at hread
      simp only [Value.toJson, JsonValue.reread, JsonValue.readAs,
        JsonValue.readString, JsonValue.readLiteral, hread]
  | enum hvariants hname => exact absurd rfl (hdeclarable _)

theorem Value.readAs_toJson_dateTime (instant : Instant) :
    ((dateTime instant).toJson.reread.readAs .dateTime).equals
        (.dateTime instant) = true ↔ instant.HasFourDigitYear := by
  have hread : FieldType.dateTime.read (String.ofList instant.shortText) = _ :=
    FieldType.read_dateTime_clockText_append instant (.inr rfl)
  by_cases hyear : instant.HasFourDigitYear
  · rw [if_pos hyear] at hread
    simp [toJson, JsonValue.reread, JsonValue.readAs, JsonValue.readString,
      JsonValue.readLiteral, hread, hyear, equals]
  · rw [if_neg hyear] at hread
    simp [toJson, JsonValue.reread, JsonValue.readAs, JsonValue.readString,
      JsonValue.readLiteral, hread, hyear, equals]

theorem Value.readAs_toJson_float64 (number : Double) :
    ((float64 number).toJson.reread.readAs .float64).equals
        (.float64 number) = true ↔ number.SurvivesJson := by
  cases number with
  | nan => simp [toJson, jsonDouble, JsonValue.reread, JsonValue.readAs, equals,
      Double.SurvivesJson]
  | number negative rank =>
      by_cases hfinite : rank.val < Double.infinityRank
      · rw [toJson, jsonDouble_of_finite hfinite]
        exact Double.reread_equals_iff hfinite
      · have hinfinite : rank.val = Double.infinityRank :=
          Nat.le_antisymm (Nat.le_of_lt_succ rank.isLt) (Nat.not_lt.mp hfinite)
        simp [toJson, jsonDouble, hinfinite, JsonValue.reread, JsonValue.readAs,
          equals, Double.SurvivesJson]

/-- The value of a literal is read where it has been written exactly if it
survives. -/
theorem Value.readAs_toJson_iff {value : Value} {type : FieldType}
    (hliteral : value.IsLiteralOf type) (hdeclarable : type.IsDeclarable) :
    (value.toJson.reread.readAs type).equals value = true ↔
      value.SurvivesJson := by
  have hexact : type.IsExact →
      ((value.toJson.reread.readAs type).equals value = true ↔
        value.SurvivesJson) := by
    intro htype
    have hvalue := htype.isExactValue hliteral
    rw [hvalue.readAs_toJson hdeclarable]
    apply iff_of_true (Value.equals_self hliteral.not_nan)
    cases hvalue <;> trivial
  cases type with
  | boolean | int32 | int64 | string | date | guid => exact hexact trivial
  | enum variants => exact absurd rfl (hdeclarable variants)
  | float64 =>
      have hfits := hliteral.fits
      cases value with
      | float64 number => exact readAs_toJson_float64 number
      | null => exact absurd hliteral.not_null Bool.true_eq_false_eq_False
      | _ => contradiction
  | dateTime =>
      have hfits := hliteral.fits
      cases value with
      | dateTime instant => exact readAs_toJson_dateTime instant
      | null => exact absurd hliteral.not_null Bool.true_eq_false_eq_False
      | _ => contradiction

/-! ## The parameters of a filter -/

/-- The printed parameters are read as one item for each of them. -/
theorem Sql.Statement.read?_parametersJson (statement : Sql.Statement) :
    JsonValue.read? statement.parametersJson.toList =
      some (.array (statement.parameters.map
        fun parameter => parameter.toJson.reread)) := by
  have hitems : ∀ item ∈ statement.parameters.map Value.toJson,
      item.Fits JsonNumeral.IsReadable 0 :=
    List.forall_mem_map.mpr fun parameter _ => parameter.fits_toJson
  have hfits := (JsonValue.Fits.array hitems).mono
    (show 1 ≤ JsonBuild.maxDepth by decide)
  rw [Sql.Statement.parametersJson, JsonValue.read?_compact hfits,
    JsonValue.reread, JsonValue.rereadItems_eq_map, List.map_map]
  rfl

section Parameters

variable {α : Type}

/-- The item is read as the value of the comparison, if that survives. -/
def Comparison.Restores (leaf : Comparison α) (item : JsonValue) : Prop :=
  leaf.operator.isTextual = false →
    ((item.readAs leaf.field.type).equals leaf.value = true ↔
      leaf.value.SurvivesJson)

theorem Comparison.exists_parameter {schema : Schema α} {leaf : Comparison α}
    (htyped : leaf.IsTyped schema)
    (hdeclarable : leaf.field.type.IsDeclarable) :
    ∃ parameter, (Filter.comparison leaf).toSql.parameters = [parameter] ∧
      leaf.Restores parameter.toJson.reread := by
  have hsurvives := Value.readAs_toJson_iff htyped.literal hdeclarable
  unfold Filter.toSql Sql.ofComparison
  split
  case h_1 htest => exact ⟨_, rfl, fun _ => hsurvives⟩
  case h_2 relation hother htest => exact ⟨_, rfl, fun _ => hsurvives⟩
  case h_3 openStart openEnd htest =>
    refine ⟨_, rfl, ?_⟩
    intro htextual
    cases hoperator : leaf.operator <;>
      simp [hoperator, Sql.Test.ofOperator, Operator.isTextual]
        at htest htextual

theorem Filter.forall₂_restores {schema : Schema α} {filter : Filter α}
    (htyped : ∀ leaf ∈ filter.comparisons, leaf.IsTyped schema)
    (hdeclarable : ∀ field ∈ schema.fields, field.type.IsDeclarable) :
    List.Forall₂
      (fun leaf parameter => Comparison.Restores leaf parameter.toJson.reread)
      filter.comparisons filter.toSql.parameters := by
  induction filter with
  | comparison leaf =>
      have hleaf := htyped leaf (List.mem_singleton_self leaf)
      obtain ⟨parameter, hparameters, hrestores⟩ := Comparison.exists_parameter
        hleaf (hdeclarable _ hleaf.field_mem)
      rw [hparameters]
      exact .cons hrestores .nil
  | logical connective left right ihLeft ihRight =>
      have hleft := ihLeft fun leaf hleaf =>
        htyped leaf (List.mem_append_left _ hleaf)
      have hright := ihRight fun leaf hleaf =>
        htyped leaf (List.mem_append_right _ hleaf)
      exact List.rel_append hleft hright

/-- The items that the parameters of a filter are read as. -/
theorem Filter.exists_items {schema : Schema α} {filter : Filter α}
    (htyped : ∀ leaf ∈ filter.comparisons, leaf.IsTyped schema)
    (hdeclarable : ∀ field ∈ schema.fields, field.type.IsDeclarable) :
    ∃ items,
      JsonValue.read? filter.toSql.parametersJson.toList =
        some (.array items) ∧
      List.Forall₂ Comparison.Restores filter.comparisons items :=
  ⟨_, filter.toSql.read?_parametersJson,
    List.forall₂_map_right_iff.mpr (Filter.forall₂_restores htyped hdeclarable)⟩

theorem Comparison.forall₂_equals_of_restores {leaves : List (Comparison α)}
    {items : List JsonValue} {survives : Bool}
    (hleaves : ∀ leaf ∈ leaves, leaf.operator.isTextual = false ∧
      decide leaf.value.SurvivesJson = survives)
    (hrestores : List.Forall₂ Restores leaves items) :
    List.Forall₂ (fun leaf item =>
      (item.readAs leaf.field.type).equals leaf.value = survives)
      leaves items := by
  have hboth := (List.forall₂_and_left _ _).mpr ⟨hleaves, hrestores⟩
  apply hboth.imp
  rintro leaf item ⟨⟨htextual, hsurvives⟩, hitem⟩
  rw [← hsurvives, Bool.eq_iff_iff, decide_eq_true_iff]
  exact hitem htextual

end Parameters

/-- The parameters of a query over declared fields are read as one item for each
comparison, and an item is read as the value of its comparison exactly if this
value survives. -/
theorem Rows.read?_parametersJson_of_bind {texts : List String}
    {declarations : List FieldDeclaration}
    (htexts : texts.mapM FieldDeclaration.ofText = .ok declarations)
    {schema : Schema JsonMembers}
    (hschema : Rows.schema declarations = .ok schema)
    (options : CompilerOptions) {query : String} {filter : Filter JsonMembers}
    (hbind : Compiler.bind ⟨schema, options⟩ query = .ok filter) :
    ∃ items,
      JsonValue.read? filter.toSql.parametersJson.toList =
        some (.array items) ∧
      List.Forall₂ Comparison.Restores filter.comparisons items := by
  have hdeclarable := Rows.isDeclarable_of_schema
    (FieldDeclaration.isDeclarable_of_mapM htexts) hschema
  rcases Compiler.bind_eq_ok_iff.mp hbind with ⟨expr, -, hexpr⟩
  exact Filter.exists_items (Schema.isTyped_of_bind hexpr) hdeclarable

/-! ## Weighings -/

namespace Weighing

/-- The parameters and what holds of all comparisons of a query. -/
def summary (expr : Expr) (holds : Comparison JsonMembers → Bool) :
    Option (String × Bool) :=
  (schema.bind expr).toOption.map fun filter =>
    (filter.toSql.parametersJson, filter.comparisons.all holds)

theorem exists_filter_of_summary {query : String} {expr : Expr}
    (hparse : Compiler.parse ⟨schema, {}⟩ query = .ok expr)
    {holds : Comparison JsonMembers → Bool} {parameters : String}
    (hsummary : summary expr holds = some (parameters, true)) :
    ∃ filter, Compiler.bind ⟨schema, {}⟩ query = .ok filter ∧
      filter.toSql.parametersJson = parameters ∧
      ∀ leaf ∈ filter.comparisons, holds leaf = true := by
  rcases Outcome.toOption_map_eq_some_iff.mp hsummary with
    ⟨filter, hfilter, hsame⟩
  simp only [Prod.mk.injEq, List.all_eq_true] at hsame
  exact
    ⟨filter, Compiler.bind_eq_ok_iff.mpr ⟨expr, hparse, hfilter⟩, hsame⟩

/-- A leap second, the least integer and a decimal that is no number of double
precision come back. -/
def query : String :=
  "weight << '-0.1' || Count >= '-2147483648' && At != '2016-12-31 23:59:60.5'"

def expr : Expr :=
  .logical .and
    (.logical .or
      (.comparison ⟨.property, "weight", ⟨0, 6⟩⟩ ⟨.operator, "<<", ⟨7, 9⟩⟩
        ⟨.value, "'-0.1'", ⟨10, 16⟩⟩)
      (.comparison ⟨.property, "Count", ⟨20, 25⟩⟩ ⟨.operator, ">=", ⟨26, 28⟩⟩
        ⟨.value, "'-2147483648'", ⟨29, 42⟩⟩))
    (.comparison ⟨.property, "At", ⟨46, 48⟩⟩ ⟨.operator, "!=", ⟨49, 51⟩⟩
      ⟨.value, "'2016-12-31 23:59:60.5'", ⟨52, 75⟩⟩)

theorem parse_query : Compiler.parse ⟨schema, {}⟩ query = .ok expr := by
  simp only [Compiler.parse, Compiler.tokenize, Compiler.lexicon,
    Lexicon.ofNames_eq_insertionSort]
  decide +kernel

theorem read?_parametersJson_query :
    ∃ filter items,
      Compiler.bind ⟨schema, {}⟩ query = .ok filter ∧
      filter.toSql.parametersJson =
        "[-0.1,-2147483648,\"2016-12-31T23:59:60.500Z\"]" ∧
      JsonValue.read? filter.toSql.parametersJson.toList =
        some (.array items) ∧
      List.Forall₂ (fun leaf item =>
        (item.readAs leaf.field.type).equals leaf.value = true)
        filter.comparisons items := by
  have hsummary : summary expr (fun leaf =>
      !leaf.operator.isTextual && leaf.value.SurvivesJson) =
        some ("[-0.1,-2147483648,\"2016-12-31T23:59:60.500Z\"]", true) := by
    decide +kernel
  rcases exists_filter_of_summary parse_query hsummary with
    ⟨filter, hbind, hparameters, hleaves⟩
  rcases Rows.read?_parametersJson_of_bind mapM_ofText rows_schema {} hbind with
    ⟨items, hread, hrestores⟩
  refine ⟨filter, items, hbind, hparameters, hread, ?_⟩
  apply Comparison.forall₂_equals_of_restores _ hrestores
  intro leaf hleaf
  simpa using hleaves leaf hleaf

/-- Infinity is printed as null, the decimal is read as a neighbour of its
number, and the date and time is not read for the sign of its year. -/
def lossyQuery : String :=
  "Weight == 'inf' || Weight == '3e23' || At == '+10000-01-01'"

def lossyExpr : Expr :=
  .logical .or
    (.logical .or
      (.comparison ⟨.property, "Weight", ⟨0, 6⟩⟩ ⟨.operator, "==", ⟨7, 9⟩⟩
        ⟨.value, "'inf'", ⟨10, 15⟩⟩)
      (.comparison ⟨.property, "Weight", ⟨19, 25⟩⟩ ⟨.operator, "==", ⟨26, 28⟩⟩
        ⟨.value, "'3e23'", ⟨29, 35⟩⟩))
    (.comparison ⟨.property, "At", ⟨39, 41⟩⟩ ⟨.operator, "==", ⟨42, 44⟩⟩
      ⟨.value, "'+10000-01-01'", ⟨45, 59⟩⟩)

theorem parse_lossyQuery :
    Compiler.parse ⟨schema, {}⟩ lossyQuery = .ok lossyExpr := by
  simp only [Compiler.parse, Compiler.tokenize, Compiler.lexicon,
    Lexicon.ofNames_eq_insertionSort]
  decide +kernel

theorem not_restored_lossyQuery :
    texts.mapM FieldDeclaration.ofText = .ok declarations ∧
    Rows.schema declarations = .ok schema ∧
    ∃ filter items,
      Compiler.bind ⟨schema, {}⟩ lossyQuery = .ok filter ∧
      filter.toSql.parametersJson =
        "[null,3e+23,\"+10000-01-01T00:00:00Z\"]" ∧
      JsonValue.read? filter.toSql.parametersJson.toList =
        some (.array items) ∧
      List.Forall₂ (fun leaf item => leaf.operator.isTextual = false ∧
        (item.readAs leaf.field.type).equals leaf.value = false)
        filter.comparisons items := by
  have hsummary : summary lossyExpr (fun leaf =>
      !leaf.operator.isTextual && !leaf.value.SurvivesJson) =
        some ("[null,3e+23,\"+10000-01-01T00:00:00Z\"]", true) := by
    decide +kernel
  rcases exists_filter_of_summary parse_lossyQuery hsummary with
    ⟨filter, hbind, hparameters, hleaves⟩
  have hlost : ∀ leaf ∈ filter.comparisons,
      leaf.operator.isTextual = false ∧
        decide leaf.value.SurvivesJson = false := by
    intro leaf hleaf
    simpa using hleaves leaf hleaf
  rcases Compiler.bind_eq_ok_iff.mp hbind with ⟨expr, -, hexpr⟩
  have hdeclarable := Rows.isDeclarable_of_schema
    (FieldDeclaration.isDeclarable_of_mapM mapM_ofText) rows_schema
  rcases Filter.exists_items (Schema.isTyped_of_bind hexpr) hdeclarable with
    ⟨items, hread, hrestores⟩
  refine
    ⟨mapM_ofText, rows_schema, filter, items, hbind, hparameters, hread, ?_⟩
  have hunequal := Comparison.forall₂_equals_of_restores hlost hrestores
  exact (List.forall₂_and_left _ _).mpr
    ⟨fun leaf hleaf => (hlost leaf hleaf).1, hunequal⟩

end Weighing

end RecordFilter

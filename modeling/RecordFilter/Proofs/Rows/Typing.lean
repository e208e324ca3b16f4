import RecordFilter.Filter.Predicate
import RecordFilter.Proofs.Filter.OperatorLaws
import RecordFilter.Proofs.Rows.Declarations
import RecordFilter.Proofs.Rows.Reading
import RecordFilter.Proofs.Value.Typing
import RecordFilter.Rows.Rows

/-!
# What declared fields read from rows

A declared field reads the member of its name as a value of the declared type,
or it reads null. Integers are read as they are or not at all. Whatever is read
therefore passes the check of types that every comparison makes, so a row
satisfies one of the tests for equality and for inequality with a literal, and a
row without a value satisfies the tests for inequality only.
-/

namespace RecordFilter

/-! ## JSON values of a type -/

/-- The types whose values are written as texts and read like literals. -/
def FieldType.readFromTexts : List FieldType := [.date, .dateTime, .guid]

/-- The greatest integer of a type of integers. -/
def FieldType.greatestInteger? : FieldType → Option Nat
  | .int32 => some maxInt32
  | .int64 => some maxInt64
  | _ => none

/-- Whether values of the type are written as JSON values of this kind. -/
def JsonValue.isOfKind (type : FieldType) : JsonValue → Bool
  | .bool _ => type == .boolean
  | .number _ => [.int32, .int64, .float64].contains type
  | .string _ => (.string :: FieldType.readFromTexts).contains type
  | _ => false

/-- The JSON value stands for this value of the type. -/
inductive JsonValue.StandsFor : FieldType → JsonValue → Value → Prop
  | boolean (flag : Bool) : StandsFor .boolean (.bool flag) (.boolean flag)
  | int32 (value : Int32) :
    StandsFor .int32 (.number (.integer value.toInt)) (.int32 value)
  | int64 (value : Int64) :
    StandsFor .int64 (.number (.integer value.toInt)) (.int64 value)
  | float64 (numeral : JsonNumeral) :
    StandsFor .float64 (.number numeral) (.float64 numeral.toDouble)
  | string (text : String) : StandsFor .string (.string text) (.string text)
  | literal {type : FieldType} (htype : type ∈ FieldType.readFromTexts)
      {text : String} {value : Value} (hread : type.read text = .ok value) :
    StandsFor type (.string text) value

/-- Why a member of a row, if there is one, has no value of the type. -/
inductive FieldType.HasNoValue (type : FieldType) : Option JsonValue → Prop
  | absent : HasNoValue type none
  | null : HasNoValue type (some .null)
  | wrongKind {item : JsonValue} (hkind : item.isOfKind type = false) :
    HasNoValue type (some item)
  | outOfRange {greatest : Nat} (htype : type.greatestInteger? = some greatest)
      {numeral : JsonNumeral} (hrange : ∀ value,
        fitsSigned greatest value = true → numeral ≠ .integer value) :
    HasNoValue type (some (.number numeral))
  | unparsable (htype : type ∈ FieldType.readFromTexts) {text : String}
      {fault : LiteralFault} (hread : type.read text = .error fault) :
    HasNoValue type (some (.string text))

namespace JsonValue

variable {type : FieldType} {item : JsonValue} {value : Value}

theorem readNumber_int32 (found : Int) :
    readNumber .int32 (.integer found) =
      if fitsSigned maxInt32 found then .int32 (Int32.ofInt found)
      else .null := by
  by_cases hwide : fitsSigned maxInt64 found = true
  · simp [readNumber, JsonNumeral.int64?, hwide]
  · have hnarrow : ¬fitsSigned maxInt32 found = true := by
      rw [fitsSigned_iff, maxInt64] at hwide
      rw [fitsSigned_iff, maxInt32]
      omega
    simp [readNumber, JsonNumeral.int64?, hwide, hnarrow]

theorem readNumber_int64 (found : Int) :
    readNumber .int64 (.integer found) =
      if fitsSigned maxInt64 found then .int64 (Int64.ofInt found)
      else .null := by
  by_cases hwide : fitsSigned maxInt64 found = true
  · simp [readNumber, JsonNumeral.int64?, hwide]
  · simp [readNumber, JsonNumeral.int64?, hwide]

/-! ## Values that are read -/

theorem readString_of_mem (htype : type ∈ FieldType.readFromTexts)
    (text : String) : readString type text = readLiteral type text := by
  simp only [FieldType.readFromTexts, List.mem_cons, List.not_mem_nil,
    or_false] at htype
  rcases htype with rfl | rfl | rfl <;> rfl

theorem StandsFor.readAs (hstands : item.StandsFor type value) :
    item.readAs type = value := by
  cases hstands with
  | boolean | string | float64 => rfl
  | int32 value => exact readAs_int32 value
  | int64 value => exact readAs_int64 value
  | literal htype hread =>
      simp only [JsonValue.readAs, readString_of_mem htype, readLiteral, hread]

theorem StandsFor.fits (hstands : item.StandsFor type value) :
    value.fits type = true := by
  cases hstands with
  | boolean | string | float64 | int32 | int64 => rfl
  | literal htype hread => exact (FieldType.isLiteralOf_read hread).fits

theorem StandsFor.not_null (hstands : item.StandsFor type value) :
    value.isNull = false := by
  cases hstands with
  | boolean | string | float64 | int32 | int64 => rfl
  | literal htype hread => exact (FieldType.isLiteralOf_read hread).not_null

theorem StandsFor.not_hasNoValue (hstands : item.StandsFor type value) :
    ¬type.HasNoValue (some item) := by
  intro hcause
  cases hstands with
  | boolean | string | float64 =>
      cases hcause <;> contradiction
  | int32 value =>
      cases hcause with
      | wrongKind hkind => contradiction
      | outOfRange htype hrange =>
          obtain rfl := Option.some.inj htype
          exact hrange _ (fitsSigned_toInt_int32 value) rfl
  | int64 value =>
      cases hcause with
      | wrongKind hkind => contradiction
      | outOfRange htype hrange =>
          obtain rfl := Option.some.inj htype
          exact hrange _ (fitsSigned_toInt_int64 value) rfl
  | literal htype hread =>
      cases hcause with
      | wrongKind hkind =>
          simp [isOfKind, htype] at hkind
      | unparsable _ hfault => simp [hread] at hfault

/-! ## Every JSON value is read or has no value of the type -/

/-- What reading a member as a value of the type comes to. -/
inductive IsRead (type : FieldType) (item : JsonValue) : Prop
  | exactly (hstands : item.StandsFor type (item.readAs type))
  | null (hnull : item.readAs type = .null)
      (hcause : type.HasNoValue (some item))

theorem standsFor_int32 {found : Int}
    (hfits : fitsSigned maxInt32 found = true) :
    (number (.integer found)).StandsFor .int32
      (.int32 (Int32.ofInt found)) := by
  have hstands := StandsFor.int32 (Int32.ofInt found)
  rwa [toInt_int32_of_fitsSigned hfits] at hstands

theorem standsFor_int64 {found : Int}
    (hfits : fitsSigned maxInt64 found = true) :
    (number (.integer found)).StandsFor .int64
      (.int64 (Int64.ofInt found)) := by
  have hstands := StandsFor.int64 (Int64.ofInt found)
  rwa [toInt_int64_of_fitsSigned hfits] at hstands

theorem isRead_integer {greatest : Nat}
    (htype : type.greatestInteger? = some greatest) {found : Int}
    (hread : readNumber type (.integer found) =
      if fitsSigned greatest found then value else .null)
    (hstands : fitsSigned greatest found = true →
      (number (.integer found)).StandsFor type value) :
    IsRead type (.number (.integer found)) := by
  by_cases hfits : fitsSigned greatest found = true
  · rw [if_pos hfits] at hread
    apply IsRead.exactly
    rw [JsonValue.readAs, hread]
    exact hstands hfits
  · rw [if_neg hfits] at hread
    refine .null hread (.outOfRange htype ?_)
    rintro other hother ⟨⟩
    exact hfits hother

theorem isRead_number (numeral : JsonNumeral) :
    IsRead type (.number numeral) := by
  cases type with
  | boolean | string | date | dateTime | guid | enum variants =>
      exact .null rfl (.wrongKind rfl)
  | float64 => exact .exactly (.float64 numeral)
  | int32 =>
      cases numeral with
      | double number => exact .null rfl (.outOfRange rfl (by simp))
      | integer found =>
          exact isRead_integer rfl (readNumber_int32 found) standsFor_int32
  | int64 =>
      cases numeral with
      | double number => exact .null rfl (.outOfRange rfl (by simp))
      | integer found =>
          exact isRead_integer rfl (readNumber_int64 found) standsFor_int64

theorem isRead_text (text : String) : IsRead type (.string text) := by
  by_cases htype : type ∈ FieldType.readFromTexts
  · have hstring := readString_of_mem htype text
    cases hread : type.read text with
    | ok value =>
        rw [readLiteral, hread] at hstring
        apply IsRead.exactly
        rw [JsonValue.readAs, hstring]
        exact .literal htype hread
    | error fault =>
        rw [readLiteral, hread] at hstring
        exact .null hstring (.unparsable htype hread)
  · cases type with
    | string => exact .exactly (.string text)
    | boolean | int32 | int64 | float64 | enum variants =>
        exact .null rfl (.wrongKind rfl)
    | date | dateTime | guid => simp [FieldType.readFromTexts] at htype

theorem isRead (type : FieldType) (item : JsonValue) : IsRead type item := by
  cases item with
  | null => exact .null rfl .null
  | array items => exact .null rfl (.wrongKind rfl)
  | object members => exact .null rfl (.wrongKind rfl)
  | bool flag =>
      by_cases htype : type = .boolean
      · subst type
        exact .exactly (.boolean flag)
      · exact .null (if_neg htype) (.wrongKind (by simpa [isOfKind]))
  | number numeral => exact isRead_number numeral
  | string text => exact isRead_text text

theorem readAs_eq_null_iff :
    item.readAs type = .null ↔ type.HasNoValue (some item) := by
  cases isRead type item with
  | null hnull hcause => exact iff_of_true hnull hcause
  | exactly hstands =>
      refine iff_of_false ?_ hstands.not_hasNoValue
      intro hnull
      have hvalue := hstands.not_null
      rw [hnull] at hvalue
      contradiction

theorem fits_readAs : (item.readAs type).fits type = true := by
  cases isRead type item with
  | null hnull hcause => rw [hnull, Value.fits]
  | exactly hstands => exact hstands.fits

theorem readAs_eq_iff (hvalue : value.isNull = false) :
    item.readAs type = value ↔ item.StandsFor type value := by
  constructor
  · intro hread
    cases isRead type item with
    | exactly hstands => rwa [hread] at hstands
    | null hnull hcause =>
        rw [← hread, hnull] at hvalue
        contradiction
  · exact StandsFor.readAs

end JsonValue

/-! ## Fields of rows -/

namespace Rows

section DeclaredFields

variable {declaration : FieldDeclaration} {row : JsonMembers}

theorem read_field_of_some {item : JsonValue}
    (hitem : JsonMembers.value? declaration.name row = some item) :
    (field declaration).read row = item.readAs declaration.type := by
  simp [field, hitem]

theorem read_field_of_none
    (hitem : JsonMembers.value? declaration.name row = none) :
    (field declaration).read row = .null := by
  simp [field, hitem]

theorem fits_read_field :
    ((field declaration).read row).fits declaration.type = true := by
  cases hitem : JsonMembers.value? declaration.name row with
  | none => rw [read_field_of_none hitem, Value.fits]
  | some item =>
      rw [read_field_of_some hitem]
      exact JsonValue.fits_readAs

theorem read_field_eq_null_iff :
    (field declaration).read row = .null ↔
      declaration.type.HasNoValue
        (JsonMembers.value? declaration.name row) := by
  cases hitem : JsonMembers.value? declaration.name row with
  | none => exact iff_of_true (read_field_of_none hitem) .absent
  | some item =>
      rw [read_field_of_some hitem]
      exact JsonValue.readAs_eq_null_iff

theorem read_field_eq_iff {value : Value} (hvalue : value.isNull = false) :
    (field declaration).read row = value ↔
      ∃ item, JsonMembers.value? declaration.name row = some item ∧
        item.StandsFor declaration.type value := by
  cases hitem : JsonMembers.value? declaration.name row with
  | none =>
      rw [read_field_of_none hitem]
      apply iff_of_false
      · rintro rfl
        contradiction
      · simp
  | some item =>
      rw [read_field_of_some hitem, JsonValue.readAs_eq_iff hvalue]
      simp

end DeclaredFields

/-! ## Comparisons with rows -/

/-- What a field reads from a row, and which comparisons with it the row
satisfies. -/
structure ReadsTyped (field : Field JsonMembers) (row : JsonMembers) :
    Prop where
  fits : (field.read row).fits field.type = true
  read_iff : ∀ value, value.isNull = false →
    (field.read row = value ↔
      ∃ item, JsonMembers.value? field.name row = some item ∧
        item.StandsFor field.type value)
  null_iff : field.read row = .null ↔
    field.type.HasNoValue (JsonMembers.value? field.name row)
  equal_iff : ∀ literal value, field.type.read literal = .ok value →
    ((Predicate.ofFilter (.comparison ⟨field, .equal, value⟩)).accepts row =
        true ↔
      ¬(Predicate.ofFilter
        (.comparison ⟨field, .notEqual, value⟩)).accepts row = true)
  onlyNotEqual : field.type.HasNoValue (JsonMembers.value? field.name row) →
    ∀ comparison : Comparison JsonMembers, comparison.field = field →
      ((Predicate.ofFilter (.comparison comparison)).accepts row = true ↔
        comparison.operator = .notEqual)

variable {record : JsonMembers} {comparison : Comparison JsonMembers}

theorem accepts_comparison_of_fits (hfits :
    (comparison.field.read record).fits comparison.field.type = true) :
    (Predicate.ofFilter (.comparison comparison)).accepts record =
      comparison.operator.holds (comparison.field.read record)
        comparison.value := by
  simp [Predicate.ofFilter, Filter.prepare, Comparison.prepare, hfits]

/-- Every field reads a value of its type or null, and a row satisfies one of
equality and inequality with each literal, or inequality only where it has no
value. -/
theorem readsTyped {declarations : List FieldDeclaration}
    {schema : Schema JsonMembers}
    (hschema : Rows.schema declarations = .ok schema)
    {found : Field JsonMembers} (hfield : found ∈ schema.fields)
    (row : JsonMembers) : ReadsTyped found row := by
  rcases exists_declaration hschema hfield with
    ⟨declaration, -, hname, htype, hread⟩
  have hfits : (found.read row).fits found.type = true := by
    rw [hread, htype]
    exact fits_read_field
  have hnull : found.read row = .null ↔
      found.type.HasNoValue (JsonMembers.value? found.name row) := by
    rw [hread, htype, hname]
    exact read_field_eq_null_iff
  refine ⟨hfits, ?_, hnull, ?_, ?_⟩
  · intro value hvalue
    rw [hread, htype, hname]
    exact read_field_eq_iff hvalue
  · intro literal value hliteral
    rw [accepts_comparison_of_fits hfits, accepts_comparison_of_fits hfits,
      (Operator.agree _ _).notEqual_iff, not_not]
  · rintro hcause comparison rfl
    rw [accepts_comparison_of_fits hfits, hnull.mpr hcause]
    exact (Operator.agree _ _).onlyNotEqual rfl _

end Rows

namespace Weighing

/-- A count of 32 bits is read, and a greater one differs from all literals. -/
theorem readsTyped_count :
    let count := Rows.field ⟨"Count", .int32⟩
    count ∈ schema.fields ∧
      count.read [("Count", .number (.integer 2147483647))] =
        .int32 2147483647 ∧
      ∀ comparison : Comparison JsonMembers, comparison.field = count →
        ((Predicate.ofFilter (.comparison comparison)).accepts
            [("Count", .number (.integer 2147483648))] = true ↔
          comparison.operator = .notEqual) := by
  intro count
  have hmem : count ∈ schema.fields :=
    List.mem_map_of_mem (List.mem_cons_of_mem _ (.head _))
  refine ⟨hmem, ?_, ?_⟩
  · have hreads := Rows.readsTyped rows_schema hmem
      [("Count", .number (.integer 2147483647))]
    exact (hreads.read_iff _ rfl).mpr
      ⟨_, rfl, .int32 (Int32.ofInt 2147483647)⟩
  · have hreads := Rows.readsTyped rows_schema hmem
      [("Count", .number (.integer 2147483648))]
    apply hreads.onlyNotEqual
    apply FieldType.HasNoValue.outOfRange rfl
    rintro value hvalue ⟨⟩
    contradiction

end Weighing

end RecordFilter

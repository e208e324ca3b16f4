import Mathlib.Data.List.Nodup
import RecordFilter.Proofs.Calendar.DateText
import RecordFilter.Proofs.GuidText
import RecordFilter.Proofs.Value.Typing
import RecordFilter.Value.Text

/-!
# Literals read back

The text of a value is a literal of its type that stands for the same value. For
numbers, dates and guids this rests on their readers; a name of an enumeration
is found again if no other name looks like it.
-/

namespace RecordFilter

/-- The names of an enumeration may stand between ticks as they are, and they
are told apart whatever the case of their letters. -/
structure ArePlainVariants (variants : List String) : Prop where
  trimmed : ∀ name ∈ variants, trim name.toList = name.toList
  withoutTick : ∀ name ∈ variants, tick ∉ name.toList
  distinct : (variants.map fun name => name.toList.map Char.toLower).Nodup

/-- The types of which all values are written exactly. -/
def FieldType.IsExact : FieldType → Prop
  | .boolean | .int32 | .int64 | .string | .date | .guid => True
  | .float64 | .dateTime => False
  | .enum variants => ArePlainVariants variants

/-- A value of an exact type. -/
inductive IsExactValue : FieldType → Value → Prop
  | boolean (flag : Bool) : IsExactValue .boolean (.boolean flag)
  | int32 (value : Int32) : IsExactValue .int32 (.int32 value)
  | int64 (value : Int64) : IsExactValue .int64 (.int64 value)
  | string (text : String) : IsExactValue .string (.string text)
  | date (date : Date) : IsExactValue .date (.date date)
  | guid (guid : Guid) : IsExactValue .guid (.guid guid)
  | enum {variants : List String} (hvariants : ArePlainVariants variants)
      {name : String} (hname : name ∈ variants) :
    IsExactValue (.enum variants) (.enum name)

theorem FieldType.IsExact.isExactValue {type : FieldType}
    (htype : type.IsExact) {value : Value} (hvalue : value.IsLiteralOf type) :
    IsExactValue type value := by
  obtain ⟨hfits, hnull, -⟩ := hvalue
  cases type with
  | float64 | dateTime => exact absurd htype id
  | boolean =>
      cases value with
      | boolean flag => exact .boolean flag
      | _ => contradiction
  | int32 =>
      cases value with
      | int32 value => exact .int32 value
      | _ => contradiction
  | int64 =>
      cases value with
      | int64 value => exact .int64 value
      | _ => contradiction
  | string =>
      cases value with
      | string text => exact .string text
      | _ => contradiction
  | date =>
      cases value with
      | date date => exact .date date
      | _ => contradiction
  | guid =>
      cases value with
      | guid guid => exact .guid guid
      | _ => contradiction
  | enum variants =>
      cases value with
      | enum name =>
          have hname : name ∈ variants := by simpa [Value.fits] using hfits
          exact .enum htype hname
      | _ => contradiction

/-! ## The single types -/

namespace Literal

theorem allInk_booleanText (flag : Bool) :
    AllInk (Value.boolean flag).text.toList := by
  have hall : ((Value.boolean flag).text.toList.all fun c =>
      !isBlank c && c != tick) = true := by
    cases flag <;> decide
  intro c hc
  simpa [IsInk] using List.all_eq_true.mp hall c hc

theorem readBoolean_text (flag : Bool) :
    readBoolean (Value.boolean flag).text.toList = .ok (.boolean flag) := by
  cases flag <;> decide

theorem readInt32_integerText (value : Int32) :
    readInt32 (integerText value.toInt) = .ok (.int32 value) := by
  have hlow := value.le_toInt
  have hhigh := value.toInt_lt
  have hread : readSigned maxInt32 (integerText value.toInt) =
      .ok value.toInt :=
    readSigned_integerText (by rw [maxInt32]; omega) (by rw [maxInt32]; omega)
  rw [readInt32, hread]
  simp only [Int32.ofInt_toInt]

theorem readInt64_integerText (value : Int64) :
    readInt64 (integerText value.toInt) = .ok (.int64 value) := by
  have hlow := value.le_toInt
  have hhigh := value.toInt_lt
  have hread : readSigned maxInt64 (integerText value.toInt) =
      .ok value.toInt :=
    readSigned_integerText (by rw [maxInt64]; omega) (by rw [maxInt64]; omega)
  rw [readInt64, hread]
  simp only [Int64.ofInt_toInt]

theorem readEnum_name {variants : List String}
    (hvariants : ArePlainVariants variants) {name : String}
    (hname : name ∈ variants) :
    readEnum variants name.toList = .ok (.enum name) := by
  have hsome :
      (variants.find? (sameIgnoringAsciiCase ·.toList name.toList)).isSome =
        true := by
    rw [List.find?_isSome]
    exact ⟨name, hname, by simp [sameIgnoringAsciiCase]⟩
  obtain ⟨found, hfind⟩ := Option.isSome_iff_exists.mp hsome
  have hsame :
      found.toList.map Char.toLower = name.toList.map Char.toLower := by
    simpa [sameIgnoringAsciiCase] using List.find?_some hfind
  have hfound : found = name :=
    List.inj_on_of_nodup_map hvariants.distinct
      (List.mem_of_find?_eq_some hfind) hname hsame
  rw [readEnum, hfind, hfound]

end Literal

/-! ## Values of exact types -/

/-- A text that neither trimming nor ticks around it change. -/
structure StandsBetweenTicks (text : List Char) : Prop where
  trimmed : trim text = text
  withoutTick : tick ∉ text

theorem AllInk.standsBetweenTicks {text : List Char} (htext : AllInk text) :
    StandsBetweenTicks text :=
  ⟨trim_of_allInk htext, htext.tick_notMem⟩

/-- All texts but those of strings. -/
theorem IsExactValue.standsBetweenTicks {type : FieldType} {value : Value}
    (hvalue : IsExactValue type value) (hother : type ≠ .string) :
    StandsBetweenTicks value.text.toList := by
  cases hvalue with
  | string text => exact absurd rfl hother
  | boolean flag => exact (Literal.allInk_booleanText flag).standsBetweenTicks
  | int32 value | int64 value =>
      rw [Value.text, String.toList_ofList]
      exact (allInk_integerText _).standsBetweenTicks
  | date date =>
      rw [Value.text, String.toList_ofList]
      exact date.allInk_text.standsBetweenTicks
  | guid guid =>
      rw [Value.text, String.toList_ofList]
      exact guid.allInk_text.standsBetweenTicks
  | enum hvariants hname =>
      exact ⟨hvariants.trimmed _ hname, hvariants.withoutTick _ hname⟩

theorem IsExactValue.read_text {type : FieldType} {value : Value}
    (hvalue : IsExactValue type value) : type.read value.text = .ok value := by
  have htrim : type ≠ .string → trim value.text.toList = value.text.toList :=
    fun hother => (hvalue.standsBetweenTicks hother).trimmed
  cases hvalue with
  | string text => rfl
  | boolean flag =>
      simp only [FieldType.read, htrim (by decide)]
      exact Literal.readBoolean_text flag
  | int32 value =>
      simp only [FieldType.read, htrim (by decide)]
      rw [Value.text, String.toList_ofList]
      exact Literal.readInt32_integerText value
  | int64 value =>
      simp only [FieldType.read, htrim (by decide)]
      rw [Value.text, String.toList_ofList]
      exact Literal.readInt64_integerText value
  | date date =>
      simp only [FieldType.read, htrim (by decide)]
      rw [Value.text, String.toList_ofList, Literal.readDate, date.read_text]
  | guid guid =>
      simp only [FieldType.read, htrim (by decide)]
      rw [Value.text, String.toList_ofList, Literal.readGuid, guid.read_text]
  | enum hvariants hname =>
      simp only [FieldType.read, htrim (by simp)]
      exact Literal.readEnum_name hvariants hname

end RecordFilter

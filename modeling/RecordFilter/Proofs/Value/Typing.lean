import RecordFilter.Value.Literal

/-!
# Values of a type

A literal stands for a value of its type that is neither null nor NaN, so what
binding, push-down and printing have to know about a literal is known from its
type.
-/

namespace RecordFilter

/-- The value is one that a literal of the type can stand for. -/
structure Value.IsLiteralOf (value : Value) (type : FieldType) : Prop where
  fits : value.fits type = true
  not_null : value.isNull = false
  not_nan : value.isNaN = false

theorem Value.eq_string_of_fits {value : Value}
    (hfits : value.fits .string = true) (hvalue : value.isNull = false) :
    ∃ text, value = .string text := by
  cases value with
  | string text => exact ⟨text, rfl⟩
  | null => simp [isNull] at hvalue
  | boolean | int32 | int64 | float64 | date | dateTime | guid | enum =>
      simp [fits] at hfits

namespace Literal

theorem isLiteralOf_readBoolean {text : List Char} {value : Value}
    (hread : readBoolean text = .ok value) : value.IsLiteralOf .boolean := by
  unfold readBoolean at hread
  split at hread
  · obtain rfl := Except.ok.inj hread
    exact ⟨rfl, rfl, rfl⟩
  · split at hread
    · obtain rfl := Except.ok.inj hread
      exact ⟨rfl, rfl, rfl⟩
    · contradiction

theorem isLiteralOf_readFloat64 {text : List Char} {value : Value}
    (hread : readFloat64 text = .ok value) : value.IsLiteralOf .float64 := by
  unfold readFloat64 at hread
  split at hread
  · split at hread
    next => contradiction
    next hnumber =>
      obtain rfl := Except.ok.inj hread
      exact ⟨rfl, rfl, by simpa [Value.isNaN] using hnumber⟩
  · contradiction

theorem mem_of_variantAt? {variants : List String} {text : List Char}
    {name : String} (hvariant : variantAt? variants text = some name) :
    name ∈ variants := by
  unfold variantAt? at hvariant
  split at hvariant
  · exact List.mem_of_getElem? hvariant
  · contradiction

theorem isLiteralOf_enum {variants : List String} {name : String}
    (hname : name ∈ variants) :
    (Value.enum name).IsLiteralOf (.enum variants) :=
  ⟨by simpa [Value.fits] using hname, rfl, rfl⟩

theorem isLiteralOf_readEnum {variants : List String} {text : List Char}
    {value : Value} (hread : readEnum variants text = .ok value) :
    value.IsLiteralOf (.enum variants) := by
  unfold readEnum at hread
  split at hread
  next name hfind =>
    obtain rfl := Except.ok.inj hread
    exact isLiteralOf_enum (List.mem_of_find?_eq_some hfind)
  next =>
    split at hread
    next name hvariant =>
      obtain rfl := Except.ok.inj hread
      exact isLiteralOf_enum (mem_of_variantAt? hvariant)
    next => contradiction

end Literal

theorem FieldType.isLiteralOf_read {type : FieldType} {text : String}
    {value : Value} (hread : type.read text = .ok value) :
    value.IsLiteralOf type := by
  cases type with
  | string =>
      obtain rfl := Except.ok.inj hread
      exact ⟨rfl, rfl, rfl⟩
  | boolean => exact Literal.isLiteralOf_readBoolean hread
  | float64 => exact Literal.isLiteralOf_readFloat64 hread
  | enum variants => exact Literal.isLiteralOf_readEnum hread
  | int32 | int64 | date | dateTime | guid =>
      -- These readers only wrap what another reader answers.
      simp only [read, Literal.readInt32, Literal.readInt64, Literal.readDate,
        Literal.readDateTime, Literal.readGuid] at hread
      split at hread
      · obtain rfl := Except.ok.inj hread
        exact ⟨rfl, rfl, rfl⟩
      · contradiction

end RecordFilter

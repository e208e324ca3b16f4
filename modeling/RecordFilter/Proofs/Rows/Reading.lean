import RecordFilter.Proofs.Number.IntegerText
import RecordFilter.Proofs.Outcome
import RecordFilter.Rows.Rows

/-!
# Which texts hold rows

A text holds rows exactly if it is the JSON text of an array that has objects
only. Of any other text the error tells what it is instead, or which of its
items is the first that is no object. Integers of 32 and of 64 bits are read
from their JSON numbers.
-/

namespace RecordFilter

def JsonValue.IsObject (item : JsonValue) : Prop :=
  ∃ members, item = .object members

namespace Rows

variable {item : JsonValue} {items : List JsonValue} {rows : List JsonMembers}
  {text : String} {error : RowsError} {position : Nat}

/-- How a text fails to hold rows. -/
inductive IsFaultOf (text : String) : RowsError → Prop
  | notJson (hread : JsonValue.read? text.toList = none) :
    IsFaultOf text .notJson
  | notArray {found : JsonValue}
    (hread : JsonValue.read? text.toList = some found)
    (harray : ∀ items, found ≠ .array items) :
    IsFaultOf text (.notArray found)
  | notObject {before : List JsonMembers} {found : JsonValue}
    {after : List JsonValue}
    (hread : JsonValue.read? text.toList =
      some (.array (before.map .object ++ found :: after)))
    (hobject : ¬found.IsObject) :
    IsFaultOf text (.notObject before.length found)

/-! ## The objects among the items -/

end Rows

/-! ## Integers -/

theorem JsonValue.readAs_int32 (value : Int32) :
    (JsonValue.number (.integer value.toInt)).readAs .int32 =
      .int32 value := by
  have hlow := value.le_toInt
  have hhigh := value.toInt_lt
  have hwide : fitsSigned maxInt64 value.toInt = true := by
    rw [fitsSigned_iff, maxInt64]
    omega
  simp [readAs, readNumber, JsonNumeral.int64?, hwide,
    fitsSigned_toInt_int32]

theorem JsonValue.readAs_int64 (value : Int64) :
    (JsonValue.number (.integer value.toInt)).readAs .int64 =
      .int64 value := by
  simp [readAs, readNumber, JsonNumeral.int64?, fitsSigned_toInt_int64]

end RecordFilter

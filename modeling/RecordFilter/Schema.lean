import RecordFilter.Text.Lowercase
import RecordFilter.Text.NameChar
import RecordFilter.Text.Quoted
import RecordFilter.Value.Basic

/-!
# Schemas

A schema lists the fields of a kind of record that queries may name. No two
fields have the same name, but names may differ in case only; such names cannot
be told apart by a query.
-/

namespace RecordFilter

structure Field (α : Type) where
  name : String
  type : FieldType
  /-- The value of the field in a record. -/
  read : α → Value
  /-- The number of the schema that the field belongs to. -/
  schema : Nat := 0

namespace Field

variable {α : Type}

/-- Whether two fields are the same field of the same schema. -/
def isSame (left right : Field α) : Bool :=
  left.schema == right.schema && left.name == right.name

end Field

inductive SchemaError where
  | duplicateField (name : String)
  | emptyFieldName
  | invalidFieldName (name : String)
  deriving DecidableEq

def SchemaError.message : SchemaError → String
  | .duplicateField name =>
    "Field '" ++ name ++ "' is registered more than once"
  | .emptyFieldName => "Field name must not be empty"
  | .invalidFieldName name =>
    "Field name '" ++ name ++ "' contains characters that cannot be lexed"

/-- Why a name does not stand for one field. -/
inductive LookupError where
  | unknown (name : String)
  | ambiguous (name : String) (candidates : List String)
  deriving DecidableEq

def LookupError.message : LookupError → String
  | .unknown name => "Unknown field: " ++ name
  | .ambiguous name candidates =>
    "Ambiguous field '" ++ name ++ "': " ++ Quoted.quoteList candidates ++
      " all match"

/-- A name that the lexicon of a query can hold. -/
def IsFieldName (name : String) : Prop :=
  name.toList ≠ [] ∧ ∀ c ∈ name.toList, isNameChar c = true

/-- Whether two names are equal in lower case. -/
def sameName (left right : String) : Bool :=
  left.toList.flatMap lowercase == right.toList.flatMap lowercase

/-- The fields of a kind of record. Schemas that are built apart are told apart
by their numbers. -/
structure Schema (α : Type) where
  number : Nat
  fields : List (Field α)
  names_valid : ∀ field ∈ fields, IsFieldName field.name
  names_distinct : (fields.map Field.name).Nodup
  fields_owned : ∀ field ∈ fields, field.schema = number

namespace Schema

variable {α : Type}

/-- What is wrong with a name that comes after other names. -/
def nameFault? (earlier : List String) (name : String) : Option SchemaError :=
  if name.toList = [] then some .emptyFieldName
  else if name.toList.all isNameChar = false then some (.invalidFieldName name)
  else if name ∈ earlier then some (.duplicateField name)
  else none

/-- What is wrong with the first faulty one of some names. -/
def firstFault? (earlier : List String) : List String → Option SchemaError
  | [] => none
  | name :: rest =>
    match nameFault? earlier name with
    | some fault => some fault
    | none => firstFault? (name :: earlier) rest

theorem nameFault?_eq_none_iff (earlier : List String) (name : String) :
    nameFault? earlier name = none ↔ IsFieldName name ∧ name ∉ earlier := by
  have hall : name.toList.all isNameChar = true ↔
      ∀ c ∈ name.toList, isNameChar c = true :=
    List.all_eq_true
  unfold nameFault? IsFieldName
  grind

theorem firstFault?_eq_none_iff (earlier names : List String) :
    firstFault? earlier names = none ↔
      (∀ name ∈ names, IsFieldName name) ∧ (∀ name ∈ names, name ∉ earlier) ∧
        names.Nodup := by
  induction names generalizing earlier with
  | nil => simp [firstFault?]
  | cons name rest ih =>
    unfold firstFault?
    cases hfault : nameFault? earlier name with
    | some fault =>
      have hbad : ¬(IsFieldName name ∧ name ∉ earlier) := by
        rw [← nameFault?_eq_none_iff, hfault]
        simp
      simp only [reduceCtorEq, List.mem_cons, forall_eq_or_imp, false_iff]
      rintro ⟨⟨hname, -⟩, ⟨hnew, -⟩, -⟩
      exact hbad ⟨hname, hnew⟩
    | none =>
      obtain ⟨hname, hnew⟩ := (nameFault?_eq_none_iff ..).mp hfault
      simp only [ih, List.mem_cons, forall_eq_or_imp, List.nodup_cons]
      grind

/-- The schema of some fields, in this order. -/
def build (fields : List (Field α)) (number : Nat := 0) :
    Except SchemaError (Schema α) :=
  match hfault : firstFault? [] (fields.map Field.name) with
  | some fault => .error fault
  | none =>
    .ok {
      number := number
      fields := fields.map ({ · with schema := number })
      names_valid := by
        have hvalid := ((firstFault?_eq_none_iff ..).mp hfault).1
        simpa using hvalid
      names_distinct := by
        have hdistinct := ((firstFault?_eq_none_iff ..).mp hfault).2.2
        simpa [Function.comp_def] using hdistinct
      fields_owned := by simp }

def names (schema : Schema α) : List String := schema.fields.map Field.name

def size (schema : Schema α) : Nat := schema.fields.length

def isEmpty (schema : Schema α) : Bool := schema.fields.isEmpty

/-- The one field that a name stands for, whatever the case of its letters. -/
def lookup (schema : Schema α) (name : String) :
    Except LookupError (Field α) :=
  match schema.fields.filter (sameName ·.name name) with
  | [] => .error (.unknown name)
  | [field] => .ok field
  | candidates => .error (.ambiguous name (candidates.map Field.name))

end Schema

end RecordFilter

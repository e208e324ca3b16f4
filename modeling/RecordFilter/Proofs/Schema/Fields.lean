import Mathlib.Data.List.Nodup
import RecordFilter.Schema

/-!
# Fields by their names

The fields of a schema have different names, so a field is found again by its
exact name. A name that is looked up is compared without regard to case, and the
answer depends on how many fields have it. A record belongs to a schema when
every field reads a value of its declared type from it, or null.
-/

namespace RecordFilter

theorem sameName_iff {left right : String} :
    sameName left right = true ↔
      left.toList.flatMap lowercase = right.toList.flatMap lowercase := by
  rw [sameName, beq_iff_eq]

namespace Schema

variable {α : Type} {schema : Schema α}

theorem field_eq_of_name_eq {field other : Field α}
    (hfield : field ∈ schema.fields) (hother : other ∈ schema.fields)
    (hname : field.name = other.name) : field = other := by
  have hdistinct := schema.names_distinct
  exact List.inj_on_of_nodup_map hdistinct hfield hother hname

theorem find?_name_eq_some {field : Field α} (hfield : field ∈ schema.fields) :
    schema.fields.find? (·.name == field.name) = some field := by
  have hsome : (schema.fields.find? (·.name == field.name)).isSome = true := by
    rw [List.find?_isSome]
    exact ⟨field, hfield, beq_self_eq_true field.name⟩
  obtain ⟨found, hfound⟩ := Option.isSome_iff_exists.mp hsome
  have hname : found.name = field.name := by
    simpa using List.find?_some hfound
  have hsame :=
    field_eq_of_name_eq (List.mem_of_find?_eq_some hfound) hfield hname
  rw [hfound, hsame]

/-- A test that only one field passes finds that field and no other. -/
theorem filter_eq_singleton {field : Field α} (hfield : field ∈ schema.fields)
    {test : Field α → Bool}
    (htest : ∀ other ∈ schema.fields, test other = true ↔ other = field) :
    schema.fields.filter test = [field] := by
  have hnodup : schema.fields.Nodup := schema.names_distinct.of_map Field.name
  apply List.perm_singleton.mp
  rw [List.perm_ext_iff_of_nodup (hnodup.filter _) (List.nodup_singleton _)]
  intro other
  rw [List.mem_filter, List.mem_singleton]
  constructor
  · rintro ⟨hother, hpasses⟩
    exact (htest other hother).mp hpasses
  · rintro rfl
    exact ⟨hfield, (htest other hfield).mpr rfl⟩

/-! ## Looking names up -/

theorem field_iff_of_filter_eq {name : String} {field : Field α}
    (hfilter : schema.fields.filter (sameName ·.name name) = [field])
    {other : Field α} (hother : other ∈ schema.fields) :
    sameName other.name name = true ↔ other = field := by
  have hmem : other ∈ schema.fields.filter (sameName ·.name name) ↔
      other ∈ [field] := by rw [hfilter]
  rw [List.mem_filter, List.mem_singleton] at hmem
  exact (and_iff_right hother).symm.trans hmem

theorem lookup_eq_ok_iff {name : String} {field : Field α} :
    schema.lookup name = .ok field ↔
      schema.fields.filter (sameName ·.name name) = [field] := by
  unfold lookup
  cases schema.fields.filter (sameName ·.name name) with
  | nil => simp
  | cons first rest =>
      cases rest with
      | nil => simp
      | cons second rest => simp

theorem lookup_eq_error_iff {name : String} {error : LookupError} :
    schema.lookup name = .error error ↔
      ((∀ field ∈ schema.fields, sameName field.name name = false) ∧
        .unknown name = error) ∨
      ∃ candidates,
        schema.fields.filter (sameName ·.name name) = candidates ∧
        2 ≤ candidates.length ∧
        .ambiguous name (candidates.map Field.name) = error := by
  have hnone : schema.fields.filter (sameName ·.name name) = [] ↔
      ∀ field ∈ schema.fields, sameName field.name name = false := by
    rw [List.filter_eq_nil_iff]
    simp only [Bool.not_eq_true]
  rw [← hnone]
  unfold lookup
  cases schema.fields.filter (sameName ·.name name) with
  | nil => simp
  | cons first rest =>
      cases rest with
      | nil => simp
      | cons second rest => simp

/-! ## Schemas that are built -/

theorem fields_of_build {fields : List (Field α)} {number : Nat}
    (hbuild : build fields number = .ok schema) :
    schema.fields = fields.map ({ · with schema := number }) := by
  unfold build at hbuild
  split at hbuild
  case h_1 => contradiction
  case h_2 =>
    obtain rfl := Except.ok.inj hbuild
    rfl

/-! ## Records of a schema -/

/-- Every field reads a value of its type from the record, or null. -/
def Admits (schema : Schema α) (record : α) : Prop :=
  ∀ field ∈ schema.fields, (field.read record).fits field.type = true

end Schema

/-! ## An address book -/

structure Contact where
  age : Int32
  nickname : Option String

namespace Contact

def ageField : Field Contact where
  name := "Age"
  type := .int32
  read contact := .int32 contact.age

def nicknameField : Field Contact where
  name := "Nickname"
  type := .string
  read contact :=
    match contact.nickname with
    | some nickname => .string nickname
    | none => .null

theorem firstFault?_names :
    Schema.firstFault? [] ["Age", "Nickname"] = none := by
  decide

def schema : Schema Contact where
  number := 0
  fields := [ageField, nicknameField]
  names_valid := by
    have hvalid := ((Schema.firstFault?_eq_none_iff _ _).mp firstFault?_names).1
    simpa [ageField, nicknameField] using hvalid
  names_distinct :=
    ((Schema.firstFault?_eq_none_iff _ _).mp firstFault?_names).2.2
  fields_owned := by simp [ageField, nicknameField]

theorem admits (contact : Contact) : schema.Admits contact := by
  intro field hfield
  rcases List.mem_cons.mp hfield with rfl | hfield
  · rfl
  · obtain rfl := List.mem_singleton.mp hfield
    cases hnickname : contact.nickname with
    | none => simp [nicknameField, hnickname, Value.fits]
    | some nickname => simp [nicknameField, hnickname, Value.fits]

end Contact

end RecordFilter

import RecordFilter.Proofs.Outcome
import RecordFilter.Proofs.Schema.Fields
import RecordFilter.Rows.Rows

/-!
# Declared fields

The fields of rows are declared by text, so their types are those that have a
name. A schema that is built from declarations has a field for each of them,
which reads the member of its name.
-/

namespace RecordFilter

/-- The types that a declaration can give. -/
def FieldType.IsDeclarable (type : FieldType) : Prop :=
  ∀ variants, type ≠ .enum variants

theorem FieldType.isDeclarable_of_mem_declarable :
    ∀ entry ∈ declarable, entry.2.IsDeclarable := by
  simp [declarable, IsDeclarable]

theorem FieldType.isDeclarable_of_ofName {name : String} {type : FieldType}
    (htype : ofName name = .ok type) : type.IsDeclarable := by
  unfold ofName at htype
  split at htype
  case h_1 found hfound =>
    obtain rfl := Except.ok.inj htype
    rcases List.lookup_eq_some_iff.mp hfound with ⟨before, after, hsplit, -⟩
    have hmem : (String.ofList (name.toList.map Char.toLower), found) ∈
        declarable := by
      rw [hsplit]
      exact List.mem_append_right _ (.head _)
    exact isDeclarable_of_mem_declarable _ hmem
  case h_2 => contradiction

theorem FieldDeclaration.isDeclarable_of_ofText {text : String}
    {declaration : FieldDeclaration} (htext : ofText text = .ok declaration) :
    declaration.type.IsDeclarable := by
  unfold ofText at htext
  split at htext
  case h_1 => contradiction
  case h_2 before after hsplit =>
    simp only at htext
    split at htext
    case isTrue => contradiction
    case isFalse =>
      rcases Outcome.map_eq_ok_iff.mp htext with ⟨type, htype, hsame⟩
      subst declaration
      exact FieldType.isDeclarable_of_ofName htype

theorem FieldDeclaration.isDeclarable_of_mapM {texts : List String}
    {declarations : List FieldDeclaration}
    (htexts : texts.mapM ofText = .ok declarations) :
    ∀ declaration ∈ declarations, declaration.type.IsDeclarable := by
  have hread := (Outcome.mapM_eq_ok_iff.mp htexts).flip
  have htyped : List.Forall₂
      (fun declaration text => declaration.type.IsDeclarable ∧
        ofText text = .ok declaration) declarations texts :=
    hread.imp fun declaration text htext =>
      ⟨isDeclarable_of_ofText htext, htext⟩
  exact ((List.forall₂_and_left _ _).mp htyped).1

/-- Every field of the schema reads like a declared field. -/
theorem Rows.exists_declaration {declarations : List FieldDeclaration}
    {schema : Schema JsonMembers}
    (hschema : Rows.schema declarations = .ok schema)
    {found : Field JsonMembers} (hfield : found ∈ schema.fields) :
    ∃ declaration ∈ declarations, found.name = declaration.name ∧
      found.type = declaration.type ∧
      found.read = (field declaration).read := by
  rw [Schema.fields_of_build hschema] at hfield
  rcases List.mem_map.mp hfield with ⟨plain, hplain, rfl⟩
  rcases List.mem_map.mp hplain with ⟨declaration, hdeclaration, rfl⟩
  exact ⟨declaration, hdeclaration, rfl, rfl, rfl⟩

theorem Rows.isDeclarable_of_schema {declarations : List FieldDeclaration}
    (hdeclarations : ∀ declaration ∈ declarations,
      declaration.type.IsDeclarable)
    {schema : Schema JsonMembers}
    (hschema : Rows.schema declarations = .ok schema) :
    ∀ field ∈ schema.fields, field.type.IsDeclarable := by
  intro field hfield
  rcases Rows.exists_declaration hschema hfield with
    ⟨declaration, hdeclaration, -, htype, -⟩
  rw [htype]
  exact hdeclarations declaration hdeclaration

/-! ## Weighings -/

namespace Weighing

def texts : List String := ["Weight:double", "Count : INT", "At:datetime"]

def declarations : List FieldDeclaration :=
  [⟨"Weight", .float64⟩, ⟨"Count", .int32⟩, ⟨"At", .dateTime⟩]

theorem mapM_ofText :
    texts.mapM FieldDeclaration.ofText = .ok declarations := by
  decide +kernel

theorem firstFault?_names :
    Schema.firstFault? [] ["Weight", "Count", "At"] = none := by
  decide

def schema : Schema JsonMembers where
  number := 0
  fields := declarations.map Rows.field
  names_valid := by
    have hvalid :=
      ((Schema.firstFault?_eq_none_iff _ _).mp firstFault?_names).1
    simpa [declarations, Rows.field] using hvalid
  names_distinct :=
    ((Schema.firstFault?_eq_none_iff _ _).mp firstFault?_names).2.2
  fields_owned := by simp [declarations, Rows.field]

theorem rows_schema : Rows.schema declarations = .ok schema := by
  unfold Rows.schema Schema.build
  split
  case h_1 fault hfault =>
    have hnone : some fault = none := hfault.symm.trans firstFault?_names
    contradiction
  case h_2 => rfl

end Weighing

end RecordFilter

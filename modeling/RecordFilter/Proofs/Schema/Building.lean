import RecordFilter.Proofs.Schema.Fields
import RecordFilter.Proofs.Selection

/-!
# Building schemas and looking names up

A schema is built from fields of which every name can stand in a query and no
two have the same name, and from no others. The names are checked one after
another, each for itself and against the names before it; as long as no check
has failed, no pair among the names before can have been missed, so the error is
that of the first name with a fault. Names that are the same but for the case of
their letters pass the checks, and a lookup of such a name tells all of them.
-/

namespace RecordFilter

/-! ## The first fault -/

/-- What is wrong with the name at a place. A name that is empty, that has a
character of no name and that stands there a second time is looked for in this
order. -/
inductive FaultAt (names : List String) (place : Nat) : SchemaError → Prop
  | empty (hname : names[place]? = some "") :
    FaultAt names place .emptyFieldName
  | invalid {name : String} (hname : names[place]? = some name)
    (hnonempty : name ≠ "") {c : Char} (hc : c ∈ name.toList)
    (hbad : isNameChar c = false) :
    FaultAt names place (.invalidFieldName name)
  | duplicate {name : String} (hname : names[place]? = some name)
    (hvalid : IsFieldName name) {earlier : Nat} (hearlier : earlier < place)
    (hsame : names[earlier]? = some name) :
    FaultAt names place (.duplicateField name)

/-- The error tells the fault of the first name that has one. -/
def SchemaError.IsFirstFault (names : List String) (error : SchemaError) :
    Prop :=
  ∃ place, FaultAt names place error ∧
    ∀ earlier < place, ∀ other, ¬FaultAt names earlier other

theorem FaultAt.lt_length {names : List String} {place : Nat}
    {error : SchemaError} (hfault : FaultAt names place error) :
    place < names.length := by
  cases hfault with
  | empty hname | invalid hname | duplicate hname =>
      exact (List.getElem?_eq_some_iff.mp hname).1

namespace Schema

variable {α : Type}

/-- The check of one name looks for the faults in their order. -/
theorem faultAt_length_iff {before after : List String} {name : String}
    {error : SchemaError} :
    FaultAt (before ++ name :: after) before.length error ↔
      nameFault? before.reverse name = some error := by
  have hhere : (before ++ name :: after)[before.length]? = some name := by simp
  constructor
  · intro hfault
    cases hfault with
    | empty hname =>
        obtain rfl := Option.some.inj (hhere.symm.trans hname)
        rfl
    | invalid hname hnonempty hc hbad =>
        obtain rfl := Option.some.inj (hhere.symm.trans hname)
        have hchars : name.toList ≠ [] := List.ne_nil_of_mem hc
        have hall : name.toList.all isNameChar = false :=
          List.all_eq_false.mpr ⟨_, hc, by simp [hbad]⟩
        rw [nameFault?, if_neg hchars, if_pos hall]
    | duplicate hname hvalid hearlier hsame =>
        obtain rfl := Option.some.inj (hhere.symm.trans hname)
        rw [List.getElem?_append_left hearlier] at hsame
        have hmem : name ∈ before.reverse :=
          List.mem_reverse.mpr (List.mem_of_getElem? hsame)
        have hall : name.toList.all isNameChar ≠ false := by
          simpa using hvalid.2
        rw [nameFault?, if_neg hvalid.1, if_neg hall, if_pos hmem]
  · intro hfault
    unfold nameFault? at hfault
    split at hfault
    next hempty =>
      obtain rfl := Option.some.inj hfault
      rw [String.toList_eq_nil_iff.mp hempty] at hhere ⊢
      exact .empty hhere
    next hchars =>
      have hnonempty : name ≠ "" := by
        rintro rfl
        contradiction
      split at hfault
      next hbad =>
        obtain rfl := Option.some.inj hfault
        rcases List.all_eq_false.mp hbad with ⟨c, hc, hbad⟩
        exact .invalid hhere hnonempty hc (by simpa using hbad)
      next hgood =>
        split at hfault
        next hmem =>
          obtain rfl := Option.some.inj hfault
          have hvalid : IsFieldName name := ⟨hchars, by simpa using hgood⟩
          rcases List.getElem?_of_mem (List.mem_reverse.mp hmem) with
            ⟨earlier, hsame⟩
          have hearlier : earlier < before.length :=
            (List.getElem?_eq_some_iff.mp hsame).1
          refine .duplicate hhere hvalid hearlier ?_
          rw [List.getElem?_append_left hearlier]
          exact hsame
        next => contradiction

/-- The names before have passed, so the first fault is that of one of the
others. -/
theorem firstFault?_reverse_eq_some_iff (before names : List String)
    (error : SchemaError) :
    firstFault? before.reverse names = some error ↔
      ∃ place, before.length ≤ place ∧ FaultAt (before ++ names) place error ∧
        ∀ earlier, before.length ≤ earlier → earlier < place →
          ∀ other, ¬FaultAt (before ++ names) earlier other := by
  induction names generalizing before with
  | nil =>
      constructor
      · intro hnone
        contradiction
      · rintro ⟨place, hle, hfault, -⟩
        have hlt := hfault.lt_length
        rw [List.append_nil] at hlt
        omega
  | cons name rest ih =>
      have hhere : ∀ other,
          FaultAt (before ++ name :: rest) before.length other ↔
            nameFault? before.reverse name = some other :=
        fun other => faultAt_length_iff
      unfold firstFault?
      cases hname : nameFault? before.reverse name with
      | some fault =>
          constructor
          · intro hsame
            refine
              ⟨before.length, Nat.le_refl _, (hhere error).mpr ?_, by omega⟩
            rw [hname]
            exact hsame
          · rintro ⟨place, hle, hfault, hfirst⟩
            rcases Nat.eq_or_lt_of_le hle with heq | hlt
            · rw [← heq] at hfault
              exact hname.symm.trans ((hhere error).mp hfault)
            · have hsooner := hfirst before.length (Nat.le_refl _) hlt fault
              exact absurd ((hhere fault).mpr hname) hsooner
      | none =>
          have hpassed : ∀ other,
              ¬FaultAt (before ++ name :: rest) before.length other := by
            intro other
            rw [hhere, hname]
            simp
          have hrest := ih (before ++ [name])
          simp only [List.reverse_append, List.reverse_singleton,
            List.singleton_append, List.length_append, List.length_singleton,
            List.append_assoc] at hrest
          simp only
          rw [hrest]
          constructor
          · rintro ⟨place, hle, hfault, hfirst⟩
            refine ⟨place, by omega, hfault, ?_⟩
            intro earlier hearlier hlt
            rcases Nat.eq_or_lt_of_le hearlier with heq | hafter
            · rw [← heq]
              exact hpassed
            · exact hfirst earlier hafter hlt
          · rintro ⟨place, hle, hfault, hfirst⟩
            have hne : before.length ≠ place := by
              rintro rfl
              exact hpassed error hfault
            refine ⟨place, by omega, hfault, ?_⟩
            intro earlier hearlier hlt
            exact hfirst earlier (by omega) hlt

theorem build_eq_error_iff {fields : List (Field α)} {number : Nat}
    {error : SchemaError} :
    build fields number = .error error ↔
      error.IsFirstFault (fields.map Field.name) := by
  have hfirst :=
    firstFault?_reverse_eq_some_iff [] (fields.map Field.name) error
  simp only [List.reverse_nil, List.length_nil, Nat.zero_le, true_and,
    List.nil_append, forall_const] at hfirst
  rw [SchemaError.IsFirstFault, ← hfirst, build]
  split <;> simp [*]

theorem exists_build_eq_ok_iff {fields : List (Field α)} {number : Nat} :
    (∃ schema, build fields number = .ok schema) ↔
      (∀ field ∈ fields, IsFieldName field.name) ∧
        (fields.map Field.name).Nodup := by
  have hnone := firstFault?_eq_none_iff [] (fields.map Field.name)
  simp only [List.forall_mem_map, List.not_mem_nil, not_false_eq_true,
    implies_true, true_and] at hnone
  rw [← hnone, build]
  split <;> simp [*]

/-! ## Lookups -/

/-- What a lookup of a name may answer: the only field whose name is the same
but for the case of its letters, or all such names in their order. -/
inductive Answers (schema : Schema α) (name : String) :
    Except LookupError (Field α) → Prop
  | found {field : Field α} (hfield : field ∈ schema.fields)
    (honly : ∀ other ∈ schema.fields,
      sameName other.name name = true ↔ other = field) :
    Answers schema name (.ok field)
  | unknown (hnone : ∀ other ∈ schema.names, sameName other name = false) :
    Answers schema name (.error (.unknown name))
  | ambiguous {candidates : List String}
    (hcandidates :
      IsSelection (sameName · name = true) schema.names candidates)
    (hmany : 2 ≤ candidates.length) :
    Answers schema name (.error (.ambiguous name candidates))

theorem filter_names (schema : Schema α) (test : String → Bool) :
    schema.names.filter test =
      (schema.fields.filter (test ·.name)).map Field.name := by
  rw [names, List.filter_map]
  rfl

theorem lookup_eq_iff {schema : Schema α} {name : String}
    {answer : Except LookupError (Field α)} :
    schema.lookup name = answer ↔ schema.Answers name answer := by
  constructor
  · rintro rfl
    cases hlookup : schema.lookup name with
    | ok field =>
        have hfilter := lookup_eq_ok_iff.mp hlookup
        have hmem : field ∈ schema.fields.filter (sameName ·.name name) := by
          rw [hfilter]
          exact List.mem_singleton_self field
        exact
          .found (List.mem_of_mem_filter hmem)
            fun other => field_iff_of_filter_eq hfilter
    | error error =>
        rcases lookup_eq_error_iff.mp hlookup with
          ⟨hnone, rfl⟩ | ⟨candidates, rfl, hmany, rfl⟩
        · exact .unknown (List.forall_mem_map.mpr hnone)
        · apply Answers.ambiguous
          · exact isSelection_iff.mpr (filter_names schema _)
          · rw [List.length_map]
            exact hmany
  · intro hanswers
    cases hanswers with
    | found hfield honly =>
        exact lookup_eq_ok_iff.mpr (filter_eq_singleton hfield honly)
    | unknown hnone =>
        exact lookup_eq_error_iff.mpr (.inl ⟨List.forall_mem_map.mp hnone, rfl⟩)
    | ambiguous hcandidates hmany =>
        have hnames := isSelection_iff.mp hcandidates
        rw [filter_names] at hnames
        rw [← hnames, List.length_map] at hmany
        refine lookup_eq_error_iff.mpr (.inr ⟨_, rfl, hmany, ?_⟩)
        rw [hnames]

/-- Fields make up a schema exactly if each name can stand in a query and no two
are the same, letter by letter. Otherwise the error is that of the first name
with a fault. The schema has all fields in their order, and a lookup finds the
only field whose name is the same but for the case of its letters, or it tells
that there is none or which ones there are. -/
theorem build_validates (fields : List (Field α)) (number : Nat) :
    ((∃ schema, build fields number = .ok schema) ↔
      (∀ field ∈ fields, IsFieldName field.name) ∧
        (fields.map Field.name).Nodup) ∧
    (∀ error, build fields number = .error error ↔
      error.IsFirstFault (fields.map Field.name)) ∧
    ∀ schema, build fields number = .ok schema →
      schema.fields = fields.map ({ · with schema := number }) ∧
        schema.names = fields.map Field.name ∧
        ∀ name answer,
          schema.lookup name = answer ↔ schema.Answers name answer := by
  refine ⟨exists_build_eq_ok_iff, fun error => build_eq_error_iff, ?_⟩
  intro schema hbuild
  have hfields := fields_of_build hbuild
  refine ⟨hfields, ?_, fun name answer => lookup_eq_iff⟩
  rw [names, hfields, List.map_map]
  rfl

end Schema

namespace Contact

/-- Two of the names differ in case only. -/
def variantFields : List (Field Contact) :=
  [ageField, nicknameField, { nicknameField with name := "NICKNAME" }]

/-- The second name has a blank, and the third one is the first one again. -/
def misnamedFields : List (Field Contact) :=
  [ageField, { nicknameField with name := "Nick name" }, ageField]

theorem firstFault?_variantFields :
    Schema.firstFault? [] (variantFields.map Field.name) = none := by
  decide

theorem build_validates_variantFields :
    (∃ schema, Schema.build variantFields = .ok schema ∧
      schema.names = ["Age", "Nickname", "NICKNAME"] ∧
      schema.lookup "nickName" =
        .error (.ambiguous "nickName" ["Nickname", "NICKNAME"])) ∧
    Schema.build misnamedFields = .error (.invalidFieldName "Nick name") ∧
      (SchemaError.invalidFieldName "Nick name").IsFirstFault
        ["Age", "Nick name", "Age"] := by
  have hmisnamed :
      Schema.build misnamedFields = .error (.invalidFieldName "Nick name") := by
    rfl
  rcases Schema.build_validates variantFields 0 with ⟨hbuilds, -, hbuilt⟩
  rcases Schema.build_validates misnamedFields 0 with ⟨-, hfails, -⟩
  refine ⟨?_, hmisnamed, (hfails _).mp hmisnamed⟩
  rcases (Schema.firstFault?_eq_none_iff _ _).mp firstFault?_variantFields with
    ⟨hvalid, -, hdistinct⟩
  rcases hbuilds.mpr ⟨List.forall_mem_map.mp hvalid, hdistinct⟩ with
    ⟨schema, hschema⟩
  rcases hbuilt schema hschema with ⟨-, hnames, hlookup⟩
  refine ⟨schema, hschema, hnames, (hlookup _ _).mpr ?_⟩
  apply Schema.Answers.ambiguous
  · rw [hnames]
    exact isSelection_iff.mpr (by decide)
  · decide

end Contact

end RecordFilter

import RecordFilter.Compiler

/-!
# What the messages of errors mention

The message of an error has in it what the error is about: the place in the
query, the text that stands there, the name of a field, and every field that a
name could stand for.
-/

namespace RecordFilter

/-- The part stands somewhere in the text. -/
def Mentions (text part : String) : Prop :=
  ∃ before after, text = before ++ part ++ after

namespace Mentions

variable {text part : String}

theorem self : Mentions part part :=
  ⟨"", "", by rw [String.empty_append, String.append_empty]⟩

theorem left (hmentions : Mentions text part) {after : String} :
    Mentions (text ++ after) part := by
  obtain ⟨before, rest, rfl⟩ := hmentions
  exact ⟨before, rest ++ after, by simp only [String.append_assoc]⟩

theorem right (hmentions : Mentions text part) {before : String} :
    Mentions (before ++ text) part := by
  obtain ⟨start, after, rfl⟩ := hmentions
  exact ⟨before ++ start, after, by simp only [String.append_assoc]⟩

theorem intercalate (separator : String) {parts : List String}
    (hpart : part ∈ parts) : Mentions (separator.intercalate parts) part := by
  induction parts with
  | nil => contradiction
  | cons first parts ih =>
      cases parts with
      | nil =>
          obtain rfl := List.mem_singleton.mp hpart
          rw [String.intercalate_singleton]
          exact .self
      | cons second parts =>
          rw [String.intercalate_cons_cons]
          rcases List.mem_cons.mp hpart with rfl | hlater
          · exact .left (.left .self)
          · exact .right (ih hlater)

end Mentions

/-! ## What errors are about -/

def SchemaError.subjects : SchemaError → List String
  | .duplicateField name => [name]
  | .emptyFieldName => []
  | .invalidFieldName name => [name]

def LookupError.subjects : LookupError → List String
  | .unknown name => [name]
  | .ambiguous name candidates => name :: candidates.map Quoted.quote

def BindError.subjects : BindError → List String
  | .lookup error => error.subjects
  | .unknownOperator operator => [operator]
  | .unsupportedOperator operator field _ => [operator, field]
  | .invalidValue text _ fault => [text, fault.message]

def CompileError.subjects : CompileError → List String
  | .lex error => [toString error.position, error.unexpected]
  | .parse error => [toString error.position]
  | .bind error => error.subjects
  | .queryTooLong length limit => [toString length, toString limit]

/-! ## What messages mention -/

theorem SchemaError.mentions_subjects (error : SchemaError) :
    ∀ subject ∈ error.subjects, Mentions error.message subject := by
  cases error with
  | duplicateField name | invalidFieldName name =>
      exact List.forall_mem_cons.mpr ⟨.left (.right .self), by simp⟩
  | emptyFieldName => simp [subjects]

theorem ParseError.mentions_position (error : ParseError) :
    Mentions error.message (toString error.position) := by
  cases error with
  | wrongOrder fault position => exact .left (.left (.right .self))
  | emptyExpression | unmatchedClosing | unmatchedOpening | nestingTooDeep |
    treeTooDeep => exact .right .self

theorem LookupError.mentions_subjects (error : LookupError) :
    ∀ subject ∈ error.subjects, Mentions error.message subject := by
  cases error with
  | unknown name => exact List.forall_mem_cons.mpr ⟨.right .self, by simp⟩
  | ambiguous name candidates =>
      refine List.forall_mem_cons.mpr ⟨.left (.left (.left (.right .self))), ?_⟩
      intro candidate hcandidate
      have hlisted : Mentions (Quoted.quoteList candidates) candidate :=
        .left (.right (.intercalate ", " hcandidate))
      exact .left (.right hlisted)

theorem BindError.mentions_subjects (error : BindError) :
    ∀ subject ∈ error.subjects, Mentions error.message subject := by
  cases error with
  | lookup error => exact error.mentions_subjects
  | unknownOperator operator =>
      exact List.forall_mem_cons.mpr ⟨.right .self, by simp⟩
  | unsupportedOperator operator field type =>
      refine List.forall_mem_cons.mpr
        ⟨.left (.left (.left (.left (.right .self)))), ?_⟩
      exact List.forall_mem_cons.mpr ⟨.left (.left (.right .self)), by simp⟩
  | invalidValue text type fault =>
      refine List.forall_mem_cons.mpr
        ⟨.left (.left (.left (.left (.right .self)))), ?_⟩
      exact List.forall_mem_cons.mpr ⟨.right .self, by simp⟩

/-- The message of an error has in it all that the error is about. -/
theorem CompileError.mentions_subjects (error : CompileError) :
    ∀ subject ∈ error.subjects, Mentions error.message subject := by
  cases error with
  | lex error =>
      refine List.forall_mem_cons.mpr
        ⟨.left (.left (.left (.right .self))), ?_⟩
      exact List.forall_mem_cons.mpr ⟨.left (.right .self), by simp⟩
  | parse error =>
      exact List.forall_mem_cons.mpr ⟨error.mentions_position, by simp⟩
  | bind error => exact error.mentions_subjects
  | queryTooLong length limit =>
      refine List.forall_mem_cons.mpr ⟨.left (.left (.right .self)), ?_⟩
      exact List.forall_mem_cons.mpr ⟨.right .self, by simp⟩

end RecordFilter

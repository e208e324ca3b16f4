import RecordFilter.Proofs.Compiler.Respelling
import RecordFilter.Proofs.Filter.Rendering

/-!
# Every field can be queried

A field whose name no other field has can be compared by every operator that
supports its type. No character of a name starts an operator, so nothing has to
stand between the name, the operator and the quoted value, and the name is never
taken for a part of another one.
-/

namespace RecordFilter

variable {α : Type}

/-! ## What a name may stand before -/

theorem IsLexeme.endsName {names : List String}
    (hnames : ∀ name ∈ names, IsFieldName name) {kind : TokenKind}
    {lexeme rest : List Char} (hlexeme : IsLexeme names kind lexeme rest)
    (hkind : kind ≠ .property) : EndsName (lexeme ++ rest) := by
  rcases hlexeme.head?_append hnames with ⟨c, hhead, rfl, -⟩
  intro d hd
  rw [hhead, Option.mem_some_iff] at hd
  rw [← hd]
  cases hname : isNameChar c with
  | false => rfl
  | true =>
      have hproperty := TokenKind.ofLeading_of_isNameChar hname
      contradiction

/-! ## Three tokens -/

section Text

variable {names : List String} {name : String}
variable {before spelling afterName afterOperator text after : String}

/-- A name, an operator and a quoted text, each after some blanks. -/
def Piece.comparison (before spelling afterName : String) (op : Operator)
    (afterOperator text : String) : List Piece :=
  [⟨before.toList, .property, spelling.toList⟩,
    ⟨afterName.toList, .operator, op.lexeme.toList⟩,
    ⟨afterOperator.toList, .value, ("'" ++ text ++ "'").toList⟩]

theorem Piece.readable_comparison (hnames : ∀ name ∈ names, IsFieldName name)
    (hname : name ∈ names)
    (hspelling : SameLetters spelling.toList name.toList) (op : Operator)
    (htext : tick ∉ text.toList) (hbefore : AllBlank before.toList)
    (hafterName : AllBlank afterName.toList)
    (hafterOperator : AllBlank afterOperator.toList)
    (hafter : AllBlank after.toList) :
    Readable names
      (comparison before spelling afterName op afterOperator text)
      after.toList := by
  have hvalue :
      IsLexeme names .value ("'" ++ text ++ "'").toList after.toList := by
    rw [toList_quoted]
    exact .value htext _
  have hoperator : ∀ rest,
      IsLexeme names .operator op.lexeme.toList rest := .operator op
  have hend : ∀ rest,
      EndsName (afterName.toList ++ (op.lexeme.toList ++ rest)) := by
    intro rest
    apply (endsName_of_allBlank hafterName).append
    exact (hoperator rest).endsName hnames nofun
  exact
    ⟨hbefore, .property hname hspelling (hend _), hafterName, hoperator _,
      hafterOperator, hvalue, hafter⟩

theorem Lexicon.exists_tokenize_comparison
    (hnames : ∀ name ∈ names, IsFieldName name) (hname : name ∈ names)
    (hspelling : SameLetters spelling.toList name.toList) (op : Operator)
    (htext : tick ∉ text.toList) (hbefore : AllBlank before.toList)
    (hafterName : AllBlank afterName.toList)
    (hafterOperator : AllBlank afterOperator.toList)
    (hafter : AllBlank after.toList) :
    ∃ property operator value,
      (ofNames names).tokenize
          (before ++ spelling ++ afterName ++ op.lexeme ++ afterOperator ++
            "'" ++ text ++ "'" ++ after) =
        .ok [property, operator, value] ∧
      (property.kind = .property ∧ property.text = spelling) ∧
      (operator.kind = .operator ∧ operator.text = op.lexeme) ∧
      value.kind = .value ∧ value.literal = text := by
  have hreadable := Piece.readable_comparison hnames hname hspelling op htext
    hbefore hafterName hafterOperator hafter
  have hlexed := tokensFrom_spell hnames hreadable 0
  simp only [Piece.comparison, Piece.spell, Piece.tokens, String.ofList_toList,
    ← String.toList_append, ← String.append_assoc] at hlexed
  exact
    ⟨_, _, _, hlexed, ⟨rfl, rfl⟩, ⟨rfl, rfl⟩, rfl,
      Token.literal_quoted _ _ _⟩

end Text

theorem Folding.ofTokens_comparison {limits : Limits}
    (hdepth : 1 ≤ limits.treeDepth) {property operator value : Token}
    (hproperty : property.kind = .property)
    (hoperator : operator.kind = .operator) (hvalue : value.kind = .value) :
    Expr.ofTokens limits [property, operator, value] =
      .ok (.comparison property operator value) := by
  let scope : Grammar.Scope :=
    .mk (.comparison ⟨property, hproperty⟩ ⟨operator, hoperator⟩
      ⟨value, hvalue⟩) .done
  have hfits : Fits limits 0 scope := ⟨Nat.zero_le _, hdepth⟩
  exact ofTokens_scope hfits

/-! ## Queries -/

/-- However a name is spelled and spaced, a query for its field compiles to one
comparison of this field if no other field has the name. -/
theorem Compiler.compile_comparison (schema : Schema α) {field : Field α}
    (hfield : field ∈ schema.fields)
    (halone : ∀ other ∈ schema.fields,
      sameName other.name field.name = true → other = field)
    {op : Operator} (hsupports : op.supports field.type = true)
    {text : String} (htext : tick ∉ text.toList) {value : Value}
    (hread : field.type.read text = .ok value) {spelling : String}
    (hspelling : SameLetters spelling.toList field.name.toList)
    {before afterName afterOperator after : String}
    (hbefore : AllBlank before.toList) (hafterName : AllBlank afterName.toList)
    (hafterOperator : AllBlank afterOperator.toList)
    (hafter : AllBlank after.toList) :
    ∃ predicate,
      compile ⟨schema, {}⟩
        (before ++ spelling ++ afterName ++ op.lexeme ++ afterOperator ++
          "'" ++ text ++ "'" ++ after) = .ok predicate ∧
      predicate.filter = .comparison ⟨field, op, value⟩ := by
  have hname : field.name ∈ schema.names := List.mem_map_of_mem hfield
  rcases Lexicon.exists_tokenize_comparison Schema.isFieldName_of_mem_names
    hname hspelling op htext hbefore hafterName hafterOperator hafter with
    ⟨property, operator, literal, htokens, ⟨hproperty, rfl⟩,
      ⟨hoperator, hlexeme⟩, hvalue, rfl⟩
  have hdepth : 1 ≤ ({} : Limits).treeDepth := by decide
  have hparse :=
    Folding.ofTokens_comparison hdepth hproperty hoperator hvalue
  have hbind := Schema.bindComparison_of_alone hfield halone
    hspelling.sameName hlexeme.symm hsupports hread
  have hfilter := Schema.bind_comparison_eq_ok_iff.mpr ⟨_, hbind, rfl⟩
  exact
    ⟨_, compile_eq_ok_iff_stages.mpr
      ⟨_, _, _, tokenize_eq_ok_iff.mpr ⟨nofun, htokens⟩, hparse, hfilter, rfl⟩,
      rfl⟩

namespace Contact

theorem eq_nicknameField_of_sameName :
    ∀ other ∈ schema.fields, sameName other.name nicknameField.name = true →
      other = nicknameField := by
  intro other hother hsame
  rcases List.mem_cons.mp hother with rfl | hother
  · have hdiffer : sameName ageField.name nicknameField.name = false := by
      decide +kernel
    rw [hdiffer] at hsame
    contradiction
  · exact List.mem_singleton.mp hother

/-- The name is spelled with a Kelvin sign, and no mark in the quoted text is
taken for a bracket or a connective. -/
theorem compile_comparison_nickname :
    ∃ predicate,
      Compiler.compile ⟨schema, {}⟩ "NIC\u212ANAME%% 'a) || (b'" =
        .ok predicate ∧
      predicate.filter =
        .comparison ⟨nicknameField, .contains, .string "a) || (b"⟩ := by
  have hfield : nicknameField ∈ schema.fields := by simp [schema]
  have hsupports :
      Operator.contains.supports nicknameField.type = true := by decide
  have htext : tick ∉ "a) || (b".toList := by decide
  have hread : nicknameField.type.read "a) || (b" =
      .ok (.string "a) || (b") := rfl
  have hletters :
      SameLetters "NIC\u212ANAME".toList nicknameField.name.toList := by
    decide
  have hempty : AllBlank "".toList := allBlank_nil
  have hspace : AllBlank " ".toList := allBlank_space
  have hquery :
      "" ++ "NIC\u212ANAME" ++ "" ++ Operator.contains.lexeme ++ " " ++
        "'" ++ "a) || (b" ++ "'" ++ "" = "NIC\u212ANAME%% 'a) || (b'" := by
    decide
  rw [← hquery]
  exact Compiler.compile_comparison schema hfield eq_nicknameField_of_sameName
    hsupports htext hread hletters hempty hempty hspace hempty

end Contact
end RecordFilter

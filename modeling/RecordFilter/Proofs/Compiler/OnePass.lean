import RecordFilter.Proofs.Compiler.Stages
import RecordFilter.Proofs.Filter.Evaluation
import RecordFilter.Proofs.Filter.Typing
import RecordFilter.Proofs.Query.Lexing
import RecordFilter.Proofs.Query.Recognition
import RecordFilter.Proofs.Schema.Fields

/-!
# Evaluation in one pass

The tokens of a query can be evaluated on a record without building a tree:
every open scope keeps one truth value and the connective that waits for the
next operand, and operands are combined strictly from left to right as they
come. The predicate that the compiler makes of a query gives the same answer.
-/

namespace RecordFilter.OnePass

/-- What has been accumulated in a scope, with the connective that waits for the
next operand. -/
abbrev Accumulator := Option (Bool × Connective)

/-- The truth value of a scope after one more operand. -/
def absorb : Accumulator → Bool → Bool
  | none, truth => truth
  | some (left, connective), truth => connective.combine left truth

section Scan

-- What three tokens say of a record, if they make up a comparison.
variable (truth : Token → Token → Token → Option Bool)

mutual

/-- Goes on where an operand has to start; the scopes around are waiting for
this one to end. -/
def scanOperand (around : List Accumulator) (accumulator : Accumulator) :
    List Token → Option Bool
  | [] => none
  | token :: rest =>
      match token.kind, rest with
      | .openBracket, rest => scanOperand (accumulator :: around) none rest
      | .property, operator :: value :: rest =>
          match truth token operator value with
          | none => none
          | some operand => scanJoint around (absorb accumulator operand) rest
      | _, _ => none

/-- Goes on where an operand has ended. -/
def scanJoint (around : List Accumulator) (accumulated : Bool) :
    List Token → Option Bool
  | [] => if around.isEmpty then some accumulated else none
  | token :: rest =>
      match token.kind, around with
      | .connective, around =>
          match Connective.ofLexeme? token.text with
          | none => none
          | some connective =>
              scanOperand around (some (accumulated, connective)) rest
      | .closeBracket, accumulator :: around =>
          scanJoint around (absorb accumulator accumulated) rest
      | _, _ => none

end

end Scan

variable {α : Type}

/-- What a comparison says of a record: the one field that its name stands for
is read, and a value of another type than declared satisfies no comparison. -/
def comparisonTruth (schema : Schema α) (record : α)
    (property operator value : Token) : Option Bool :=
  match schema.fields.filter (sameName ·.name property.text),
    Operator.ofLexeme? operator.text with
  | [field], some op =>
      match field.type.read value.literal with
      | .error _ => none
      | .ok literal =>
          let actual := field.read record
          some
            (if actual.fits field.type then op.holds actual literal else false)
  | _, _ => none

/-- What the tokens of a query say of a record. -/
def evaluate (schema : Schema α) (record : α) (tokens : List Token) :
    Option Bool :=
  scanOperand (comparisonTruth schema record) [] none tokens

/-! ## One step of the scan -/

section Steps

variable {truth : Token → Token → Token → Option Bool}
variable {around : List Accumulator} {accumulator : Accumulator}
variable {accumulated : Bool} {rest : List Token}

theorem scanOperand_openBracket (opening : Grammar.TokenOf .openBracket) :
    scanOperand truth around accumulator (opening.val :: rest) =
      scanOperand truth (accumulator :: around) none rest := by
  simp [scanOperand, opening.property]

theorem scanOperand_comparison (property : Grammar.TokenOf .property)
    {operator value : Token} {operand : Bool}
    (htruth : truth property.val operator value = some operand) :
    scanOperand truth around accumulator
        (property.val :: operator :: value :: rest) =
      scanJoint truth around (absorb accumulator operand) rest := by
  simp [scanOperand, property.property, htruth]

theorem scanJoint_joint (joint : Grammar.Joint) :
    scanJoint truth around accumulated (joint.token :: rest) =
      scanOperand truth around (some (accumulated, joint.connective)) rest := by
  simp [scanJoint, joint.kind_eq, joint.text_eq]

theorem scanJoint_closeBracket (closing : Grammar.TokenOf .closeBracket) :
    scanJoint truth (accumulator :: around) accumulated (closing.val :: rest) =
      scanJoint truth around (absorb accumulator accumulated) rest := by
  simp [scanJoint, closing.property]

end Steps

theorem comparisonTruth_of_bindComparison {schema : Schema α}
    {property operator value : Token} {leaf : Comparison α}
    (hbind : schema.bindComparison property operator value = .ok leaf)
    (record : α) :
    comparisonTruth schema record property operator value =
      some (leaf.evaluate record) := by
  obtain ⟨hfield, ⟨hlexeme, -⟩, hread⟩ :=
    Schema.bindComparison_eq_ok_iff.mp hbind
  have hoperator := Operator.ofLexeme?_eq_some_iff.mpr hlexeme
  simp only [comparisonTruth, hfield, hoperator, hread, Comparison.evaluate]
  cases (leaf.field.read record).fits leaf.field.type <;> rfl

/-! ## The scan of a derivation

The induction goes along the derivation. What the scan has accumulated at the
end of an operand is the truth value of the filter that the tree of the operand
is bound to.
-/

section Derivation

open Grammar

variable (schema : Schema α) (record : α)

mutual

theorem scan_operand (around : List Accumulator) (accumulator : Accumulator)
    (operand : Operand) {filter : Filter α}
    (hbind : schema.bind operand.tree = .ok filter) (rest : List Token) :
    scanOperand (comparisonTruth schema record) around accumulator
        (operand.tokens ++ rest) =
      scanJoint (comparisonTruth schema record) around
        (absorb accumulator (filter.evaluate record)) rest := by
  match operand with
  | .comparison property operator value =>
      obtain ⟨leaf, hleaf, rfl⟩ := Schema.bind_comparison_eq_ok_iff.mp hbind
      have htruth := comparisonTruth_of_bindComparison hleaf record
      simp only [Operand.tokens, List.cons_append, List.nil_append]
      rw [scanOperand_comparison property htruth]
      rfl
  | .bracketed opening inner closing =>
      simp only [Operand.tokens, List.cons_append, List.append_assoc,
        List.nil_append]
      rw [scanOperand_openBracket,
        scan_scope (accumulator :: around) inner hbind, scanJoint_closeBracket]

theorem scan_scope (around : List Accumulator) (scope : Scope)
    {filter : Filter α} (hbind : schema.bind scope.tree = .ok filter)
    (rest : List Token) :
    scanOperand (comparisonTruth schema record) around none
        (scope.tokens ++ rest) =
      scanJoint (comparisonTruth schema record) around
        (filter.evaluate record) rest := by
  match scope with
  | .mk first chain =>
      obtain ⟨firstFilter, hfirst, hchain⟩ := scan_chain around chain hbind rest
      simp only [Scope.tokens, List.append_assoc]
      rw [scan_operand around none first hfirst]
      exact hchain

theorem scan_chain (around : List Accumulator) (chain : Chain) {left : Expr}
    {filter : Filter α} (hbind : schema.bind (chain.foldOnto left) = .ok filter)
    (rest : List Token) :
    ∃ leftFilter, schema.bind left = .ok leftFilter ∧
      scanJoint (comparisonTruth schema record) around
          (leftFilter.evaluate record) (chain.tokens ++ rest) =
        scanJoint (comparisonTruth schema record) around
          (filter.evaluate record) rest := by
  match chain with
  | .done => exact ⟨filter, hbind, rfl⟩
  | .link joint operand further =>
      obtain ⟨joined, hjoined, hfurther⟩ := scan_chain around further hbind rest
      obtain ⟨leftFilter, hleft, operandFilter, hoperand, rfl⟩ :=
        Schema.bind_logical_eq_ok_iff.mp hjoined
      refine ⟨leftFilter, hleft, ?_⟩
      simp only [Chain.tokens, List.cons_append, List.append_assoc]
      rw [scanJoint_joint, scan_operand around _ operand hoperand, ← hfurther]
      simp only [absorb, Filter.evaluate_logical]

end

end Derivation

theorem evaluate_scope_tokens {schema : Schema α} {scope : Grammar.Scope}
    {filter : Filter α} (hbind : schema.bind scope.tree = .ok filter)
    (record : α) :
    evaluate schema record scope.tokens = some (filter.evaluate record) := by
  have hscan := scan_scope schema record [] scope hbind []
  simpa [evaluate, scanJoint] using hscan

/-- The predicate of a query says of every record what one pass over the tokens
of the query says. -/
theorem evaluate_tokens_eq_accepts (compiler : Compiler α) {query : String}
    {predicate : Predicate α}
    (hcompile : compiler.compile query = .ok predicate) :
    ∃ tokens, compiler.tokenize query = .ok tokens ∧
      ∀ record, evaluate compiler.schema record tokens =
        some (predicate.accepts record) := by
  obtain ⟨filter, hbind, rfl⟩ := Compiler.compile_eq_ok_iff.mp hcompile
  obtain ⟨expr, hparse, hfilter⟩ := Compiler.bind_eq_ok_iff.mp hbind
  obtain ⟨tokens, htokens, htree⟩ := Compiler.parse_eq_ok_iff.mp hparse
  obtain ⟨scope, rfl, -, rfl⟩ := Folding.exists_scope_of_ofTokens htree
  refine ⟨scope.tokens, htokens, ?_⟩
  intro record
  rw [evaluate_scope_tokens hfilter]
  simp only [Predicate.withSource, Predicate.ofFilter,
    Filter.prepare_eq_evaluate]

/-- A query of which the brackets and the order of the connectives matter. -/
def contactQuery : String :=
  "AGE != '3' && (Nickname == 'a)' || age << '7') || Nickname @= ''"

def contactCompiler : Compiler Contact where
  schema := Contact.schema

theorem exists_compile_contactQuery :
    ∃ predicate, contactCompiler.compile contactQuery = .ok predicate ∧
      predicate.filter.comparisons.length = 4 := by
  have hcount :
      (contactCompiler.compile contactQuery).toOption.map
        (·.filter.comparisons.length) = some 4 := by
    simp only [Compiler.compile, Compiler.bind, Compiler.parse,
      Compiler.tokenize, Compiler.lexicon, Lexicon.ofNames_eq_insertionSort]
    decide +kernel
  exact Outcome.toOption_map_eq_some_iff.mp hcount

theorem evaluate_contactQuery_eq_accepts :
    ∃ predicate, contactCompiler.compile contactQuery = .ok predicate ∧
      ∃ tokens, contactCompiler.tokenize contactQuery = .ok tokens ∧
        ∀ record,
          evaluate contactCompiler.schema record tokens =
            some (predicate.accepts record) := by
  have hcompiles :
      (contactCompiler.compile contactQuery).toOption.isSome = true := by
    simp only [Compiler.compile, Compiler.bind, Compiler.parse,
      Compiler.tokenize, Compiler.lexicon, Lexicon.ofNames_eq_insertionSort]
    decide +kernel
  cases hcompile : contactCompiler.compile contactQuery with
  | error error =>
      rw [hcompile] at hcompiles
      contradiction
  | ok predicate =>
      exact
        ⟨predicate, rfl, evaluate_tokens_eq_accepts contactCompiler hcompile⟩

end RecordFilter.OnePass

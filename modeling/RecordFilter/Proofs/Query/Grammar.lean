import Mathlib.Data.List.Basic
import RecordFilter.Query.Expr

/-!
# The grammar of queries

A derivation says how a list of tokens is made up of scopes, operands and
comparisons. It keeps the brackets, which the expression of a query forgets, so
one list of tokens has at most one derivation while many lists have the same
expression. Nothing in this file refers to the stack machine that reads queries.
-/

namespace RecordFilter.Grammar

/-- A token of a given kind. -/
abbrev TokenOf (kind : TokenKind) := { token : Token // token.kind = kind }

/-- A connective as a query writes it. -/
structure Joint where
  token : Token
  connective : Connective
  kind_eq : token.kind = .connective
  text_eq : token.text = connective.lexeme

theorem Joint.ext_token {joint other : Joint}
    (htoken : joint.token = other.token) : joint = other := by
  obtain ⟨token, connective, hkind, htext⟩ := joint
  obtain ⟨otherToken, otherConnective, hotherKind, hotherText⟩ := other
  simp only at htoken
  subst otherToken
  have hsame : connective = otherConnective := by
    have hlexeme := Connective.ofLexeme?_lexeme connective
    rw [← htext, hotherText, Connective.ofLexeme?_lexeme] at hlexeme
    exact (Option.some.inj hlexeme).symm
  subst hsame
  rfl

mutual

/-- `operand ::= property operator value | ( scope )` -/
inductive Operand where
  | comparison (property : TokenOf .property) (operator : TokenOf .operator)
      (value : TokenOf .value)
  | bracketed (opening : TokenOf .openBracket) (inner : Scope)
      (closing : TokenOf .closeBracket)

/-- `scope ::= operand (connective operand)*` -/
inductive Scope where
  | mk (first : Operand) (rest : Chain)

/-- The operands of a scope after its first one, each with the connective before
it. -/
inductive Chain where
  | done
  | link (joint : Joint) (operand : Operand) (rest : Chain)

end

mutual

def Operand.tokens : Operand → List Token
  | .comparison property operator value =>
      [property.val, operator.val, value.val]
  | .bracketed opening inner closing =>
      opening.val :: (inner.tokens ++ [closing.val])

def Scope.tokens : Scope → List Token
  | .mk first rest => first.tokens ++ rest.tokens

def Chain.tokens : Chain → List Token
  | .done => []
  | .link joint operand rest => joint.token :: (operand.tokens ++ rest.tokens)

end

mutual

/-- The greatest number of brackets that are open at once. -/
def Operand.nesting : Operand → Nat
  | .comparison .. => 0
  | .bracketed _ inner _ => inner.nesting + 1

def Scope.nesting : Scope → Nat
  | .mk first rest => max first.nesting rest.nesting

def Chain.nesting : Chain → Nat
  | .done => 0
  | .link _ operand rest => max operand.nesting rest.nesting

end

mutual

def Operand.tree : Operand → Expr
  | .comparison property operator value =>
      .comparison property.val operator.val value.val
  | .bracketed _ inner _ => inner.tree

/-- The operands of the scope, folded from left to right. -/
def Scope.tree : Scope → Expr
  | .mk first rest => rest.foldOnto first.tree

/-- What a left part grows to when the operands of the chain are joined to it
one by one. -/
def Chain.foldOnto (left : Expr) : Chain → Expr
  | .done => left
  | .link joint operand rest =>
      rest.foldOnto (.logical joint.connective left operand.tree)

end

/-! ## Depth of the fold -/

theorem Chain.depth_le_foldOnto (chain : Chain) (left : Expr) :
    left.depth ≤ (chain.foldOnto left).depth := by
  match chain with
  | .done => simp [foldOnto]
  | .link joint operand rest =>
      have hrest :=
        rest.depth_le_foldOnto (.logical joint.connective left operand.tree)
      simp only [Expr.depth] at hrest
      simp only [foldOnto]
      omega

/-! ## The tokens of comparisons -/

/-- The three tokens are among some others, each with its kind. -/
structure HoldsComparison (tokens : List Token)
    (comparison : Token × Token × Token) : Prop where
  property_mem : comparison.1 ∈ tokens
  property_kind : comparison.1.kind = .property
  operator_mem : comparison.2.1 ∈ tokens
  operator_kind : comparison.2.1.kind = .operator
  value_mem : comparison.2.2 ∈ tokens
  value_kind : comparison.2.2.kind = .value

theorem HoldsComparison.mono {tokens more : List Token}
    {comparison : Token × Token × Token}
    (hholds : HoldsComparison tokens comparison) (hmore : tokens ⊆ more) :
    HoldsComparison more comparison :=
  { hholds with
    property_mem := hmore hholds.property_mem
    operator_mem := hmore hholds.operator_mem
    value_mem := hmore hholds.value_mem }

mutual

theorem Operand.holdsComparison (operand : Operand) :
    ∀ comparison ∈ operand.tree.comparisons,
      HoldsComparison operand.tokens comparison := by
  match operand with
  | .comparison property operator value =>
      intro comparison hmem
      obtain rfl := List.mem_singleton.mp hmem
      exact
        { property_mem := by simp [Operand.tokens]
          property_kind := property.property
          operator_mem := by simp [Operand.tokens]
          operator_kind := operator.property
          value_mem := by simp [Operand.tokens]
          value_kind := value.property }
  | .bracketed opening inner closing =>
      intro comparison hmem
      apply (inner.holdsComparison comparison hmem).mono
      intro token htoken
      simp [Operand.tokens, htoken]

theorem Scope.holdsComparison (scope : Scope) :
    ∀ comparison ∈ scope.tree.comparisons,
      HoldsComparison scope.tokens comparison := by
  match scope with
  | .mk first rest =>
      intro comparison hmem
      rcases rest.holdsComparison first.tree comparison hmem with hmem | hrest
      · apply (first.holdsComparison comparison hmem).mono
        exact List.subset_append_left _ _
      · exact hrest.mono (List.subset_append_right _ _)

theorem Chain.holdsComparison (chain : Chain) (left : Expr) :
    ∀ comparison ∈ (chain.foldOnto left).comparisons,
      comparison ∈ left.comparisons ∨
        HoldsComparison chain.tokens comparison := by
  match chain with
  | .done =>
      intro comparison hmem
      exact .inl hmem
  | .link joint operand rest =>
      intro comparison hmem
      rcases rest.holdsComparison _ comparison hmem with hmem | hrest
      · rcases List.mem_append.mp hmem with hleft | hoperand
        · exact .inl hleft
        · refine .inr ((operand.holdsComparison comparison hoperand).mono ?_)
          intro token htoken
          simp [Chain.tokens, htoken]
      · refine .inr (hrest.mono ?_)
        intro token htoken
        simp [Chain.tokens, htoken]

end

/-! ## Growing a scope at its right end -/

def Chain.append : Chain → Chain → Chain
  | .done, more => more
  | .link joint operand rest, more => .link joint operand (rest.append more)

/-- The scope with further operands. -/
def Scope.append : Scope → Chain → Scope
  | .mk first rest, more => .mk first (rest.append more)

def Chain.snoc (joint : Joint) (operand : Operand) : Chain → Chain
  | .done => .link joint operand .done
  | .link first firstOperand rest =>
      .link first firstOperand (rest.snoc joint operand)

/-- The scope with one more operand. -/
def Scope.snoc (joint : Joint) (operand : Operand) : Scope → Scope
  | .mk first rest => .mk first (rest.snoc joint operand)

theorem Chain.tokens_append (chain more : Chain) :
    (chain.append more).tokens = chain.tokens ++ more.tokens := by
  match chain with
  | .done => simp [append, tokens]
  | .link joint operand rest =>
      simp [append, tokens, rest.tokens_append more]

theorem Chain.nesting_append (chain more : Chain) :
    (chain.append more).nesting = max chain.nesting more.nesting := by
  match chain with
  | .done => simp [append, nesting]
  | .link joint operand rest =>
      simp [append, nesting, rest.nesting_append more, Nat.max_assoc]

theorem Chain.foldOnto_append (chain more : Chain) (left : Expr) :
    (chain.append more).foldOnto left =
      more.foldOnto (chain.foldOnto left) := by
  match chain with
  | .done => simp [append, foldOnto]
  | .link joint operand rest => simp [append, foldOnto, rest.foldOnto_append]

@[simp]
theorem Scope.tokens_append (scope : Scope) (more : Chain) :
    (scope.append more).tokens = scope.tokens ++ more.tokens := by
  rcases scope with ⟨first, rest⟩
  simp [append, tokens, rest.tokens_append]

@[simp]
theorem Scope.nesting_append (scope : Scope) (more : Chain) :
    (scope.append more).nesting = max scope.nesting more.nesting := by
  rcases scope with ⟨first, rest⟩
  simp [append, nesting, rest.nesting_append, Nat.max_assoc]

@[simp]
theorem Scope.tree_append (scope : Scope) (more : Chain) :
    (scope.append more).tree = more.foldOnto scope.tree := by
  rcases scope with ⟨first, rest⟩
  simp [append, tree, rest.foldOnto_append]

theorem Chain.snoc_eq_append (chain : Chain) (joint : Joint)
    (operand : Operand) :
    chain.snoc joint operand = chain.append (.link joint operand .done) := by
  match chain with
  | .done => rfl
  | .link first firstOperand rest =>
      rw [snoc, append, rest.snoc_eq_append joint operand]

theorem Scope.snoc_eq_append (scope : Scope) (joint : Joint)
    (operand : Operand) :
    scope.snoc joint operand = scope.append (.link joint operand .done) := by
  rcases scope with ⟨first, rest⟩
  rw [snoc, append, rest.snoc_eq_append joint operand]

@[simp]
theorem Scope.tokens_snoc (scope : Scope) (joint : Joint) (operand : Operand) :
    (scope.snoc joint operand).tokens =
      scope.tokens ++ joint.token :: operand.tokens := by
  rw [snoc_eq_append, tokens_append]
  simp [Chain.tokens]

@[simp]
theorem Scope.nesting_snoc (scope : Scope) (joint : Joint) (operand : Operand) :
    (scope.snoc joint operand).nesting = max scope.nesting operand.nesting := by
  rw [snoc_eq_append, nesting_append]
  simp [Chain.nesting]

@[simp]
theorem Scope.tree_snoc (scope : Scope) (joint : Joint) (operand : Operand) :
    (scope.snoc joint operand).tree =
      .logical joint.connective scope.tree operand.tree := by
  rw [snoc_eq_append, tree_append]
  simp [Chain.foldOnto]

/-! ## One derivation for each list of tokens

An operand ends where its last token ends, but a scope goes on as long as
connectives follow. So a scope is recovered from a list of tokens only if what
comes after it does not start with a connective.
-/

/-- The tokens do not go on with a connective. -/
def EndsScope (after : List Token) : Prop :=
  ∀ token, after.head? = some token → token.kind ≠ .connective

theorem endsScope_nil : EndsScope [] := by
  simp [EndsScope]

theorem endsScope_closing (closing : TokenOf .closeBracket)
    (after : List Token) :
    EndsScope (closing.val :: after) := by
  intro token htoken
  obtain rfl : closing.val = token := by simpa using htoken
  simp [closing.property]

mutual

theorem Operand.eq_of_tokens_append (operand other : Operand)
    {after otherAfter : List Token}
    (htokens : operand.tokens ++ after = other.tokens ++ otherAfter) :
    operand = other ∧ after = otherAfter := by
  match operand, other with
  | .comparison property operator value,
    .comparison otherProperty otherOperator otherValue =>
      simp only [Operand.tokens, List.cons_append, List.nil_append,
        List.cons.injEq] at htokens
      obtain ⟨hproperty, hoperator, hvalue, hafter⟩ := htokens
      rw [Subtype.ext hproperty, Subtype.ext hoperator, Subtype.ext hvalue]
      exact ⟨rfl, hafter⟩
  | .bracketed opening inner closing,
    .bracketed otherOpening otherInner otherClosing =>
      simp only [Operand.tokens, List.cons_append, List.append_assoc,
        List.cons.injEq, List.nil_append] at htokens
      obtain ⟨hopening, hinner⟩ := htokens
      obtain ⟨rfl, hrest⟩ := inner.eq_of_tokens_append otherInner hinner
        (endsScope_closing closing after)
        (endsScope_closing otherClosing otherAfter)
      obtain ⟨hclosing, hafter⟩ := List.cons.inj hrest
      rw [Subtype.ext hopening, Subtype.ext hclosing]
      exact ⟨rfl, hafter⟩
  | .comparison property operator value, .bracketed opening inner closing =>
      simp only [Operand.tokens, List.cons_append, List.cons.injEq] at htokens
      have hkind := property.property
      rw [htokens.1, opening.property] at hkind
      contradiction
  | .bracketed opening inner closing, .comparison property operator value =>
      simp only [Operand.tokens, List.cons_append, List.cons.injEq] at htokens
      have hkind := property.property
      rw [← htokens.1, opening.property] at hkind
      contradiction

theorem Scope.eq_of_tokens_append (scope other : Scope)
    {after otherAfter : List Token}
    (htokens : scope.tokens ++ after = other.tokens ++ otherAfter)
    (hafter : EndsScope after) (hotherAfter : EndsScope otherAfter) :
    scope = other ∧ after = otherAfter := by
  match scope, other with
  | .mk first rest, .mk otherFirst otherRest =>
      simp only [Scope.tokens, List.append_assoc] at htokens
      obtain ⟨rfl, hrest⟩ := first.eq_of_tokens_append otherFirst htokens
      obtain ⟨rfl, hsame⟩ :=
        rest.eq_of_tokens_append otherRest hrest hafter hotherAfter
      exact ⟨rfl, hsame⟩

theorem Chain.eq_of_tokens_append (chain other : Chain)
    {after otherAfter : List Token}
    (htokens : chain.tokens ++ after = other.tokens ++ otherAfter)
    (hafter : EndsScope after) (hotherAfter : EndsScope otherAfter) :
    chain = other ∧ after = otherAfter := by
  match chain, other with
  | .done, .done => exact ⟨rfl, by simpa [Chain.tokens] using htokens⟩
  | .done, .link joint operand rest =>
      simp only [Chain.tokens, List.nil_append, List.cons_append] at htokens
      exact absurd joint.kind_eq (hafter joint.token (by simp [htokens]))
  | .link joint operand rest, .done =>
      simp only [Chain.tokens, List.nil_append, List.cons_append] at htokens
      exact absurd joint.kind_eq (hotherAfter joint.token (by simp [← htokens]))
  | .link joint operand rest, .link otherJoint otherOperand otherRest =>
      simp only [Chain.tokens, List.cons_append, List.append_assoc,
        List.cons.injEq] at htokens
      obtain ⟨hjoint, htail⟩ := htokens
      obtain ⟨rfl, hrest⟩ := operand.eq_of_tokens_append otherOperand htail
      obtain ⟨rfl, hsame⟩ :=
        rest.eq_of_tokens_append otherRest hrest hafter hotherAfter
      rw [Joint.ext_token hjoint]
      exact ⟨rfl, hsame⟩

end

theorem Scope.tokens_injective : Function.Injective Scope.tokens := by
  intro scope other htokens
  have happend : scope.tokens ++ [] = other.tokens ++ [] := by
    simpa using htokens
  exact (scope.eq_of_tokens_append other happend endsScope_nil endsScope_nil).1

end RecordFilter.Grammar

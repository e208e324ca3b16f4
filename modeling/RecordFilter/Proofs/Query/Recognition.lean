import RecordFilter.Proofs.Outcome
import RecordFilter.Proofs.Query.Grammar
import RecordFilter.Query.Folding

/-!
# Reading is recognition

The machine that folds tokens accepts exactly the lists of tokens that have a
derivation within the limits, and answers with the fold of that derivation.
Completeness follows the derivation; soundness follows the run, with an
invariant that says which tokens every part of the machine's state stands for.
-/

namespace RecordFilter.Folding

open Grammar

/-- The state of the machine after some more tokens. -/
def run (limits : Limits) (state : State) (tokens : List Token) :
    Except ParseError State :=
  tokens.foldlM (step limits) state

@[simp]
theorem run_nil (limits : Limits) (state : State) :
    run limits state [] = .ok state := rfl

theorem run_cons_of_step {limits : Limits} {state next : State} {token : Token}
    (hstep : step limits state token = .ok next) (rest : List Token) :
    run limits state (token :: rest) = run limits next rest := by
  simp only [run, List.foldlM_cons, hstep]
  rfl

theorem run_append_of_run {limits : Limits} {state next : State}
    {front : List Token} (hfront : run limits state front = .ok next)
    (back : List Token) :
    run limits state (front ++ back) = run limits next back := by
  unfold run at hfront ⊢
  rw [List.foldlM_append, hfront]
  rfl

theorem run_cons_eq_ok {limits : Limits} {state last : State} {token : Token}
    {rest : List Token} (hrun : run limits state (token :: rest) = .ok last) :
    ∃ next, step limits state token = .ok next ∧
      run limits next rest = .ok last := by
  cases hstep : step limits state token with
  | error error =>
      simp only [run, List.foldlM_cons, hstep] at hrun
      contradiction
  | ok next =>
      rw [run_cons_of_step hstep] at hrun
      exact ⟨next, rfl, hrun⟩

/-! ## Completing an operand -/

/-- The tree of a scope after one more operand. -/
def attach : Option Leading → Expr → Expr
  | none, tree => tree
  | some left, tree => .logical left.connective left.tree tree

/-- The depth that is kept with the left part of a scope is the depth of its
tree. -/
def IsExact (leading : Option Leading) : Prop :=
  ∀ left, leading = some left → left.depth = left.tree.depth

theorem isExact_none : IsExact none := by
  simp [IsExact]

theorem isExact_some (tree : Expr) (connective : Connective) (position : Nat) :
    IsExact (some ⟨tree, tree.depth, connective, position⟩) := by
  rintro _ ⟨⟩
  rfl

theorem depth_le_attach (leading : Option Leading) (tree : Expr) :
    tree.depth ≤ (attach leading tree).depth := by
  cases leading with
  | none => exact Nat.le_refl _
  | some left =>
      simp only [attach, Expr.depth]
      omega

theorem complete_eq {leading : Option Leading} (hexact : IsExact leading)
    (limits : Limits) (tree : Expr) (position : Nat) :
    complete limits leading tree tree.depth position =
      if limits.treeDepth < (attach leading tree).depth then
        .error (.treeTooDeep limits.treeDepth position)
      else .ok
        (.afterOperand (attach leading tree) (attach leading tree).depth) := by
  cases leading with
  | none => rfl
  | some left =>
      have hleft : left.depth = left.tree.depth := hexact left rfl
      simp only [complete, attach, Expr.depth, hleft]

theorem complete_of_fits {leading : Option Leading} (hexact : IsExact leading)
    {limits : Limits} {tree : Expr}
    (hdepth : (attach leading tree).depth ≤ limits.treeDepth) (position : Nat) :
    complete limits leading tree tree.depth position =
      .ok
        (.afterOperand (attach leading tree) (attach leading tree).depth) := by
  rw [complete_eq hexact, if_neg (by omega)]

/-! ## The steps that go on -/

section Steps

variable {limits : Limits} {enclosing : List Enclosing}
variable {leading : Option Leading} {token : Token}

theorem step_property (hkind : token.kind = .property) :
    step limits ⟨enclosing, .beforeOperand leading⟩ token =
      .ok ⟨enclosing, .afterProperty leading token⟩ := by
  simp [step, stepBeforeOperand, hkind]

theorem step_operator (property : Token) (hkind : token.kind = .operator) :
    step limits ⟨enclosing, .afterProperty leading property⟩ token =
      .ok ⟨enclosing, .afterOperator leading property token⟩ := by
  simp [step, hkind]

theorem step_value (property operator : Token) (hkind : token.kind = .value) :
    step limits ⟨enclosing, .afterOperator leading property operator⟩ token =
      (complete limits leading (.comparison property operator token) 1
        property.span.start).map (⟨enclosing, ·⟩) := by
  simp [step, hkind]

theorem step_openBracket (hkind : token.kind = .openBracket)
    (hroom : enclosing.length < limits.nesting) :
    step limits ⟨enclosing, .beforeOperand leading⟩ token =
      .ok ⟨⟨leading, token.span.start⟩ :: enclosing, .beforeOperand none⟩ := by
  simp [step, stepBeforeOperand, hkind, hroom]

theorem step_closeBracket (outer : Enclosing) (tree : Expr) (depth : Nat)
    (hkind : token.kind = .closeBracket) :
    step limits ⟨outer :: enclosing, .afterOperand tree depth⟩ token =
      (complete limits outer.leading tree depth outer.bracket).map
        (⟨enclosing, ·⟩) := by
  simp [step, stepAfterOperand, hkind]

theorem step_joint (joint : Joint) (tree : Expr) (depth : Nat) :
    step limits ⟨enclosing, .afterOperand tree depth⟩ joint.token =
      .ok ⟨enclosing, .beforeOperand
        (some ⟨tree, depth, joint.connective, joint.token.span.start⟩)⟩ := by
  simp [step, stepAfterOperand, joint.kind_eq, joint.text_eq]

end Steps

/-! ## Every derivation within the limits is accepted -/

mutual

theorem run_operand (limits : Limits) (enclosing : List Enclosing)
    (operand : Operand) {leading : Option Leading} (hexact : IsExact leading)
    (hnesting : enclosing.length + operand.nesting ≤ limits.nesting)
    (hdepth : (attach leading operand.tree).depth ≤ limits.treeDepth) :
    run limits ⟨enclosing, .beforeOperand leading⟩ operand.tokens =
      .ok ⟨enclosing, .afterOperand (attach leading operand.tree)
        (attach leading operand.tree).depth⟩ := by
  match operand with
  | .comparison property operator value =>
      simp only [Operand.tokens, Operand.tree] at hdepth ⊢
      have hcomplete := complete_of_fits hexact hdepth property.val.span.start
      have hstep :
          step limits
              ⟨enclosing, .afterOperator leading property.val operator.val⟩
              value.val = _ :=
        step_value _ _ value.property
      simp only [Expr.depth] at hcomplete
      rw [hcomplete] at hstep
      rw [run_cons_of_step (step_property property.property),
        run_cons_of_step (step_operator _ operator.property),
        run_cons_of_step hstep, run_nil]
  | .bracketed opening inner closing =>
      simp only [Operand.nesting] at hnesting
      simp only [Operand.tokens, Operand.tree] at hdepth ⊢
      have hinnerDepth := depth_le_attach leading inner.tree
      have hinner :=
        run_scope limits (⟨leading, opening.val.span.start⟩ :: enclosing) inner
          (by simp only [List.length_cons]; omega) (by omega)
      have hstep : step limits ⟨⟨leading, opening.val.span.start⟩ :: enclosing,
          .afterOperand inner.tree inner.tree.depth⟩ closing.val = _ :=
        step_closeBracket _ _ _ closing.property
      rw [complete_of_fits hexact hdepth] at hstep
      rw [run_cons_of_step (step_openBracket opening.property (by omega)),
        run_append_of_run hinner, run_cons_of_step hstep, run_nil]

theorem run_scope (limits : Limits) (enclosing : List Enclosing) (scope : Scope)
    (hnesting : enclosing.length + scope.nesting ≤ limits.nesting)
    (hdepth : scope.tree.depth ≤ limits.treeDepth) :
    run limits ⟨enclosing, .beforeOperand none⟩ scope.tokens =
      .ok ⟨enclosing, .afterOperand scope.tree scope.tree.depth⟩ := by
  match scope with
  | .mk first rest =>
      simp only [Scope.nesting] at hnesting
      simp only [Scope.tree, Scope.tokens] at hdepth ⊢
      have hfirstDepth := rest.depth_le_foldOnto first.tree
      have hfirst := run_operand limits enclosing first isExact_none (by omega)
        (by simp only [attach]; omega)
      rw [run_append_of_run hfirst]
      exact run_chain limits enclosing rest (by omega) hdepth

theorem run_chain (limits : Limits) (enclosing : List Enclosing) (chain : Chain)
    {left : Expr} (hnesting : enclosing.length + chain.nesting ≤ limits.nesting)
    (hdepth : (chain.foldOnto left).depth ≤ limits.treeDepth) :
    run limits ⟨enclosing, .afterOperand left left.depth⟩ chain.tokens =
      .ok
        ⟨enclosing,
          .afterOperand (chain.foldOnto left) (chain.foldOnto left).depth⟩ := by
  match chain with
  | .done => rfl
  | .link joint operand rest =>
      simp only [Chain.nesting] at hnesting
      simp only [Chain.foldOnto, Chain.tokens] at hdepth ⊢
      have hleft :=
        rest.depth_le_foldOnto (.logical joint.connective left operand.tree)
      have hexact :=
        isExact_some left joint.connective joint.token.span.start
      have hoperand := run_operand limits enclosing operand hexact (by omega)
        (by simp only [attach]; omega)
      rw [run_cons_of_step (step_joint joint left left.depth),
        run_append_of_run hoperand]
      exact run_chain limits enclosing rest (by omega) hdepth

end

/-! ## Every accepted list has a derivation

The tokens that have been read are spelled out by the state: the scopes around
the innermost one give what stands before their brackets, and the progress of
the innermost one gives the rest.
-/

/-- A scope that may stand where a number of brackets is open. -/
structure Fits (limits : Limits) (level : Nat) (scope : Scope) : Prop where
  nesting : level + scope.nesting ≤ limits.nesting
  depth : scope.tree.depth ≤ limits.treeDepth

inductive LeadingSpells (limits : Limits) (level : Nat) :
    Option Leading → List Token → Prop where
  | start : LeadingSpells limits level none []
  | joined (scope : Scope) (joint : Joint) (hfits : Fits limits level scope) :
    LeadingSpells limits level
      (some ⟨scope.tree, scope.tree.depth, joint.connective,
        joint.token.span.start⟩)
      (scope.tokens ++ [joint.token])

inductive EnclosingSpells (limits : Limits) :
    List Enclosing → List Token → Prop where
  | top : EnclosingSpells limits [] []
  | opened {enclosing : List Enclosing} {leading : Option Leading}
      {around before : List Token} (opening : TokenOf .openBracket)
      (henclosing : EnclosingSpells limits enclosing around)
      (hleading : LeadingSpells limits enclosing.length leading before)
      (hroom : enclosing.length < limits.nesting) :
    EnclosingSpells limits (⟨leading, opening.val.span.start⟩ :: enclosing)
      (around ++ before ++ [opening.val])

inductive ProgressSpells (limits : Limits) (level : Nat) :
    Progress → List Token → Prop where
  | beforeOperand {leading : Option Leading} {before : List Token}
      (hleading : LeadingSpells limits level leading before) :
    ProgressSpells limits level (.beforeOperand leading) before
  | afterProperty {leading : Option Leading} {before : List Token}
      (property : TokenOf .property)
      (hleading : LeadingSpells limits level leading before) :
    ProgressSpells limits level (.afterProperty leading property.val)
      (before ++ [property.val])
  | afterOperator {leading : Option Leading} {before : List Token}
      (property : TokenOf .property) (operator : TokenOf .operator)
      (hleading : LeadingSpells limits level leading before) :
    ProgressSpells limits level
      (.afterOperator leading property.val operator.val)
      (before ++ [property.val, operator.val])
  | afterOperand (scope : Scope) (hfits : Fits limits level scope) :
    ProgressSpells limits level (.afterOperand scope.tree scope.tree.depth)
      scope.tokens

/-- The tokens that have led to a state of the machine. -/
def Spells (limits : Limits) (state : State) (tokens : List Token) : Prop :=
  ∃ around inside, tokens = around ++ inside ∧
    EnclosingSpells limits state.enclosing around ∧
    ProgressSpells limits state.enclosing.length state.progress inside

theorem spells_start (limits : Limits) : Spells limits {} [] :=
  ⟨[], [], rfl, .top, .beforeOperand .start⟩

theorem EnclosingSpells.length_le {limits : Limits} {enclosing : List Enclosing}
    {around : List Token}
    (henclosing : EnclosingSpells limits enclosing around) :
    enclosing.length ≤ limits.nesting := by
  cases henclosing with
  | top => exact Nat.zero_le _
  | opened opening henclosing hleading hroom => exact hroom

theorem LeadingSpells.isExact {limits : Limits} {level : Nat}
    {leading : Option Leading} {before : List Token}
    (hleading : LeadingSpells limits level leading before) :
    IsExact leading := by
  cases hleading with
  | start => exact isExact_none
  | joined scope joint hfits => exact isExact_some _ _ _

/-- An operand that fits completes the scope whose left part has been read. -/
theorem LeadingSpells.complete {limits : Limits} {level : Nat}
    {leading : Option Leading} {before : List Token}
    (hleading : LeadingSpells limits level leading before) (operand : Operand)
    (hnesting : level + operand.nesting ≤ limits.nesting) {position : Nat}
    {progress : Progress}
    (hcomplete :
      Folding.complete limits leading operand.tree operand.tree.depth
        position = .ok progress) :
    ProgressSpells limits level progress (before ++ operand.tokens) := by
  rw [complete_eq hleading.isExact] at hcomplete
  split at hcomplete
  next => contradiction
  next hdepth =>
    obtain rfl := Except.ok.inj hcomplete
    cases hleading with
    | start =>
        have hspells : ProgressSpells limits level _ _ :=
          .afterOperand (Scope.mk operand .done)
            { nesting := by
                simpa [Scope.nesting, Chain.nesting] using hnesting
              depth := by
                simpa [attach, Scope.tree, Chain.foldOnto] using hdepth }
        simpa [attach, Scope.tree, Chain.foldOnto, Scope.tokens, Chain.tokens]
          using hspells
    | joined scope joint hfits =>
        have hspells : ProgressSpells limits level _ _ :=
          .afterOperand (scope.snoc joint operand)
            { nesting := by
                have hscope := hfits.nesting
                simp only [Scope.nesting_snoc]
                omega
              depth := by simpa [attach] using hdepth }
        simpa [attach] using hspells

theorem spells_stepBeforeOperand {limits : Limits} {enclosing : List Enclosing}
    {leading : Option Leading} {around before : List Token} {token : Token}
    {next : State} (henclosing : EnclosingSpells limits enclosing around)
    (hleading : LeadingSpells limits enclosing.length leading before)
    (hstep : stepBeforeOperand limits enclosing leading token = .ok next) :
    Spells limits next (around ++ before ++ [token]) := by
  unfold stepBeforeOperand at hstep
  cases hkind : token.kind with
  | property =>
      simp only [hkind] at hstep
      obtain rfl := Except.ok.inj hstep
      exact
        ⟨around, before ++ [token], by simp, henclosing,
          .afterProperty ⟨token, hkind⟩ hleading⟩
  | openBracket =>
      simp only [hkind] at hstep
      split at hstep
      next => contradiction
      next hroom =>
        obtain rfl := Except.ok.inj hstep
        exact ⟨around ++ before ++ [token], [], by simp,
          .opened ⟨token, hkind⟩ henclosing hleading (by omega),
          .beforeOperand .start⟩
  | closeBracket =>
      simp only [hkind] at hstep
      split at hstep <;> contradiction
  | connective =>
      simp [hkind] at hstep
  | operator =>
      simp [hkind] at hstep
  | value =>
      simp [hkind] at hstep

theorem spells_stepAfterOperand {limits : Limits} {enclosing : List Enclosing}
    {scope : Scope} {around : List Token} {token : Token} {next : State}
    (henclosing : EnclosingSpells limits enclosing around)
    (hfits : Fits limits enclosing.length scope)
    (hstep :
      stepAfterOperand limits enclosing scope.tree scope.tree.depth token =
        .ok next) :
    Spells limits next (around ++ scope.tokens ++ [token]) := by
  unfold stepAfterOperand at hstep
  cases hkind : token.kind with
  | connective =>
      simp only [hkind] at hstep
      split at hstep
      next connective hlexeme =>
        obtain rfl := Except.ok.inj hstep
        have htext := (Connective.ofLexeme?_eq_some_iff.mp hlexeme).symm
        exact ⟨around, scope.tokens ++ [token], by simp, henclosing,
          .beforeOperand
            (.joined scope ⟨token, connective, hkind, htext⟩ hfits)⟩
      next => contradiction
  | closeBracket =>
      simp only [hkind] at hstep
      cases henclosing with
      | top => contradiction
      | @opened enclosing leading around before opening henclosing hleading
        hroom =>
          obtain ⟨progress, hcomplete, rfl⟩ := Outcome.map_eq_ok_iff.mp hstep
          have hnesting := hfits.nesting
          simp only [List.length_cons] at hnesting
          have hspells :=
            hleading.complete (.bracketed opening scope ⟨token, hkind⟩)
              (by simp only [Operand.nesting]; omega) hcomplete
          exact ⟨around, _, by simp [Operand.tokens], henclosing, hspells⟩
  | property =>
      simp [hkind] at hstep
  | openBracket =>
      simp [hkind] at hstep
  | operator =>
      simp [hkind] at hstep
  | value =>
      simp [hkind] at hstep

theorem Spells.step {limits : Limits} {state next : State} {before : List Token}
    {token : Token} (hspells : Spells limits state before)
    (hstep : Folding.step limits state token = .ok next) :
    Spells limits next (before ++ [token]) := by
  obtain ⟨enclosing, progress⟩ := state
  obtain ⟨around, inside, rfl, henclosing, hinside⟩ := hspells
  cases hinside with
  | beforeOperand hleading =>
      exact spells_stepBeforeOperand henclosing hleading hstep
  | afterOperand scope hfits =>
      exact spells_stepAfterOperand henclosing hfits hstep
  | @afterProperty leading before property hleading =>
      simp only [Folding.step] at hstep
      split at hstep
      next hkind =>
        obtain rfl := Except.ok.inj hstep
        exact ⟨around, before ++ [property.val, token], by simp, henclosing,
          .afterOperator property ⟨token, hkind⟩ hleading⟩
      next => contradiction
  | @afterOperator leading before property operator hleading =>
      simp only [Folding.step] at hstep
      split at hstep
      next hkind =>
        obtain ⟨progress, hcomplete, rfl⟩ := Outcome.map_eq_ok_iff.mp hstep
        have hspells :=
          hleading.complete (.comparison property operator ⟨token, hkind⟩)
            (by simpa [Operand.nesting] using henclosing.length_le) hcomplete
        exact ⟨around, _, by simp [Operand.tokens], henclosing, hspells⟩
      next => contradiction

theorem Spells.run {limits : Limits} {state last : State}
    {before tokens : List Token} (hspells : Spells limits state before)
    (hrun : Folding.run limits state tokens = .ok last) :
    Spells limits last (before ++ tokens) := by
  induction tokens generalizing state before with
  | nil =>
      obtain rfl := Except.ok.inj hrun
      simpa using hspells
  | cons token rest ih =>
      obtain ⟨next, hstep, hrest⟩ := run_cons_eq_ok hrun
      simpa using ih (hspells.step hstep) hrest

/-! ## Accepted token lists -/

theorem finish_eq_ok {state : State} {stop : Nat} {tree : Expr}
    (hfinish : finish state stop = .ok tree) :
    ∃ depth, state = ⟨[], .afterOperand tree depth⟩ := by
  obtain ⟨enclosing, progress⟩ := state
  unfold finish at hfinish
  split at hfinish <;> simp_all

theorem Spells.of_finish {limits : Limits} {state : State} {tokens : List Token}
    {stop : Nat} {tree : Expr} (hspells : Spells limits state tokens)
    (hfinish : finish state stop = .ok tree) :
    ∃ scope : Scope,
      scope.tokens = tokens ∧ Fits limits 0 scope ∧ scope.tree = tree := by
  obtain ⟨depth, rfl⟩ := finish_eq_ok hfinish
  obtain ⟨around, inside, rfl, henclosing, hinside⟩ := hspells
  cases henclosing
  cases hinside with
  | afterOperand scope hfits => exact ⟨scope, by simp, hfits, rfl⟩

theorem ofTokens_scope {limits : Limits} {scope : Scope}
    (hfits : Fits limits 0 scope) :
    Expr.ofTokens limits scope.tokens = .ok scope.tree := by
  have hrun := run_scope limits [] scope hfits.nesting hfits.depth
  unfold run at hrun
  simp only [Expr.ofTokens, hrun, finish]

theorem exists_scope_of_ofTokens {limits : Limits} {tokens : List Token}
    {tree : Expr} (hparse : Expr.ofTokens limits tokens = .ok tree) :
    ∃ scope : Scope,
      scope.tokens = tokens ∧ Fits limits 0 scope ∧ scope.tree = tree := by
  unfold Expr.ofTokens at hparse
  split at hparse
  next => contradiction
  next state hrun =>
    have hspells := (spells_start limits).run hrun
    exact hspells.of_finish hparse

/-- A list of tokens is accepted within some limits exactly if it has a
derivation that keeps to them; the answer is the fold of the derivation, and no
list has a second derivation. -/
theorem ofTokens_eq_ok_iff_derivation (limits : Limits) (tokens : List Token) :
    (∀ tree, Expr.ofTokens limits tokens = .ok tree ↔
      ∃ scope : Scope, scope.tokens = tokens ∧ scope.nesting ≤ limits.nesting ∧
        scope.tree.depth ≤ limits.treeDepth ∧ scope.tree = tree) ∧
    Subsingleton { scope : Scope // scope.tokens = tokens } := by
  constructor
  · intro tree
    constructor
    · intro hparse
      obtain ⟨scope, htokens, hfits, htree⟩ := exists_scope_of_ofTokens hparse
      exact ⟨scope, htokens, by simpa using hfits.nesting, hfits.depth, htree⟩
    · rintro ⟨scope, rfl, hnesting, hdepth, rfl⟩
      exact
        ofTokens_scope
          { nesting := by simpa using hnesting
            depth := hdepth }
  · constructor
    rintro ⟨scope, htokens⟩ ⟨other, hother⟩
    have hsame := Scope.tokens_injective (htokens.trans hother.symm)
    exact Subtype.ext hsame

end RecordFilter.Folding

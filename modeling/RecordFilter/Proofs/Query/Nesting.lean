import RecordFilter.Proofs.Query.Recognition

/-!
# Brackets beyond the limit

A derivation whose tree is not too deep can only be refused for its brackets.
The machine follows it up to the bracket that is one too many, so the induction
goes along the derivation and skips the parts that fit.
-/

namespace RecordFilter.Folding

open Grammar

theorem run_append_of_error {limits : Limits} {state : State}
    {front : List Token} {error : ParseError}
    (hfront : run limits state front = .error error) (back : List Token) :
    run limits state (front ++ back) = .error error := by
  unfold run at hfront ⊢
  rw [List.foldlM_append, hfront]
  rfl

theorem run_cons_of_error {limits : Limits} {state : State} {token : Token}
    {error : ParseError} (hstep : step limits state token = .error error)
    (rest : List Token) :
    run limits state (token :: rest) = .error error := by
  simp only [run, List.foldlM_cons, hstep]
  rfl

theorem step_openBracket_of_full {limits : Limits} {enclosing : List Enclosing}
    {leading : Option Leading} {token : Token}
    (hkind : token.kind = .openBracket)
    (hfull : limits.nesting ≤ enclosing.length) :
    step limits ⟨enclosing, .beforeOperand leading⟩ token =
      .error (.nestingTooDeep limits.nesting token.span.start) := by
  simp [step, stepBeforeOperand, hkind, hfull]

/-- The tokens are refused for a bracket that is one too many. -/
def IsTooNested (limits : Limits) (state : State) (tokens : List Token) :
    Prop :=
  ∃ position, run limits state tokens =
    .error (.nestingTooDeep limits.nesting position)

section Propagation

variable {limits : Limits} {state next : State} {token : Token}
variable {front back : List Token}

theorem IsTooNested.append (hfront : IsTooNested limits state front)
    (back : List Token) : IsTooNested limits state (front ++ back) := by
  obtain ⟨position, hrun⟩ := hfront
  exact ⟨position, run_append_of_error hrun back⟩

theorem IsTooNested.append_of_run (hback : IsTooNested limits next back)
    (hfront : run limits state front = .ok next) :
    IsTooNested limits state (front ++ back) := by
  obtain ⟨position, hrun⟩ := hback
  exact ⟨position, by rw [run_append_of_run hfront, hrun]⟩

theorem IsTooNested.cons_of_step (hback : IsTooNested limits next back)
    (hstep : step limits state token = .ok next) :
    IsTooNested limits state (token :: back) := by
  obtain ⟨position, hrun⟩ := hback
  exact ⟨position, by rw [run_cons_of_step hstep, hrun]⟩

end Propagation

mutual

theorem isTooNested_operand (limits : Limits) (enclosing : List Enclosing)
    (operand : Operand) {leading : Option Leading}
    (henclosing : enclosing.length ≤ limits.nesting)
    (hnesting : limits.nesting < enclosing.length + operand.nesting)
    (hdepth : operand.tree.depth ≤ limits.treeDepth) :
    IsTooNested limits ⟨enclosing, .beforeOperand leading⟩ operand.tokens := by
  match operand with
  | .comparison property operator value =>
      simp only [Operand.nesting] at hnesting
      omega
  | .bracketed opening inner closing =>
      simp only [Operand.nesting] at hnesting
      simp only [Operand.tree] at hdepth
      by_cases hroom : enclosing.length < limits.nesting
      · have hinner := isTooNested_scope limits
          (⟨leading, opening.val.span.start⟩ :: enclosing) inner hroom
          (by simp only [List.length_cons]; omega) hdepth
        have hopening :
            step limits ⟨enclosing, .beforeOperand leading⟩ opening.val = _ :=
          step_openBracket opening.property hroom
        exact (hinner.append [closing.val]).cons_of_step hopening
      · have hopening :
            step limits ⟨enclosing, .beforeOperand leading⟩ opening.val = _ :=
          step_openBracket_of_full opening.property (Nat.le_of_not_lt hroom)
        exact ⟨_, run_cons_of_error hopening _⟩

theorem isTooNested_scope (limits : Limits) (enclosing : List Enclosing)
    (scope : Scope) (henclosing : enclosing.length ≤ limits.nesting)
    (hnesting : limits.nesting < enclosing.length + scope.nesting)
    (hdepth : scope.tree.depth ≤ limits.treeDepth) :
    IsTooNested limits ⟨enclosing, .beforeOperand none⟩ scope.tokens := by
  match scope with
  | .mk first rest =>
      simp only [Scope.nesting] at hnesting
      simp only [Scope.tree] at hdepth
      have hfirstDepth := rest.depth_le_foldOnto first.tree
      by_cases hfirst : enclosing.length + first.nesting ≤ limits.nesting
      · have hrun := run_operand limits enclosing first isExact_none hfirst
          (by simp only [attach]; omega)
        have hrest := isTooNested_chain limits enclosing rest henclosing
          (by omega) hdepth
        exact hrest.append_of_run hrun
      · have hdeep :
            IsTooNested limits ⟨enclosing, .beforeOperand none⟩ first.tokens :=
          isTooNested_operand limits enclosing first henclosing (by omega)
            (by omega)
        exact hdeep.append rest.tokens

theorem isTooNested_chain (limits : Limits) (enclosing : List Enclosing)
    (chain : Chain) {left : Expr}
    (henclosing : enclosing.length ≤ limits.nesting)
    (hnesting : limits.nesting < enclosing.length + chain.nesting)
    (hdepth : (chain.foldOnto left).depth ≤ limits.treeDepth) :
    IsTooNested limits ⟨enclosing, .afterOperand left left.depth⟩
      chain.tokens := by
  match chain with
  | .done =>
      simp only [Chain.nesting] at hnesting
      omega
  | .link joint operand rest =>
      simp only [Chain.nesting] at hnesting
      simp only [Chain.foldOnto] at hdepth
      have hleft :=
        rest.depth_le_foldOnto (.logical joint.connective left operand.tree)
      have hjoint :
          step limits ⟨enclosing, .afterOperand left left.depth⟩ joint.token =
            _ :=
        step_joint joint left left.depth
      by_cases hoperand : enclosing.length + operand.nesting ≤ limits.nesting
      · have hexact :=
          isExact_some left joint.connective joint.token.span.start
        have hrun := run_operand limits enclosing operand hexact hoperand
          (by simp only [attach]; omega)
        have hrest := isTooNested_chain limits enclosing rest henclosing
          (by omega) hdepth
        exact (hrest.append_of_run hrun).cons_of_step hjoint
      · have htree : operand.tree.depth ≤ limits.treeDepth := by
          simp only [Expr.depth] at hleft
          omega
        have hdeep :
            IsTooNested limits
              ⟨enclosing, .beforeOperand
                (some ⟨left, left.depth, joint.connective,
                  joint.token.span.start⟩)⟩ operand.tokens :=
          isTooNested_operand limits enclosing operand henclosing (by omega)
            htree
        exact (hdeep.append rest.tokens).cons_of_step hjoint

end

theorem ofTokens_of_tooNested {limits : Limits} {scope : Scope}
    (hnesting : limits.nesting < scope.nesting)
    (hdepth : scope.tree.depth ≤ limits.treeDepth) :
    ∃ position, Expr.ofTokens limits scope.tokens =
      .error (.nestingTooDeep limits.nesting position) := by
  obtain ⟨position, hrun⟩ :=
    isTooNested_scope limits [] scope (Nat.zero_le _) (by simpa using hnesting)
      hdepth
  unfold run at hrun
  exact ⟨position, by simp only [Expr.ofTokens, hrun]⟩

end RecordFilter.Folding

import RecordFilter.Proofs.Query.Nesting

/-!
# Errors at the first wrong token

The parser refuses tokens either for one of them, and then whatever follows, or
because they end too early, and then they can be completed. The completion of
the tokens that have been read is put together as a derivation: the operand that
is under way is finished, and every open bracket is closed. It opens no further
bracket and has one comparison more at most, so limits as large as the number of
tokens leave room for it.
-/

namespace RecordFilter

theorem Expr.depth_pos (expr : Expr) : 0 < expr.depth := by
  cases expr with
  | comparison property operator value => exact Nat.one_pos
  | logical connective left right =>
      simp only [Expr.depth]
      omega

namespace Grammar

/-! ## Derivations are no larger than their tokens -/

def countKind (kind : TokenKind) (tokens : List Token) : Nat :=
  tokens.countP (·.kind == kind)

section Count

variable {kind : TokenKind}

@[simp]
theorem countKind_nil : countKind kind [] = 0 := rfl

@[simp]
theorem countKind_cons (token : Token) (tokens : List Token) :
    countKind kind (token :: tokens) =
      countKind kind tokens + if token.kind == kind then 1 else 0 :=
  List.countP_cons

@[simp]
theorem countKind_append (front back : List Token) :
    countKind kind (front ++ back) =
      countKind kind front + countKind kind back :=
  List.countP_append

end Count

theorem countKind_le_length (kind : TokenKind) (tokens : List Token) :
    countKind kind tokens ≤ tokens.length :=
  List.countP_le_length

mutual

theorem Operand.nesting_le (operand : Operand) :
    operand.nesting ≤ countKind .openBracket operand.tokens := by
  match operand with
  | .comparison property operator value => exact Nat.zero_le _
  | .bracketed opening inner closing =>
      have hinner := inner.nesting_le
      simp only [Operand.nesting, Operand.tokens, countKind_cons,
        countKind_append, opening.property, beq_self_eq_true, if_true]
      omega

theorem Scope.nesting_le (scope : Scope) :
    scope.nesting ≤ countKind .openBracket scope.tokens := by
  match scope with
  | .mk first rest =>
      have hfirst := first.nesting_le
      have hrest := rest.nesting_le
      simp only [Scope.nesting, Scope.tokens, countKind_append]
      omega

theorem Chain.nesting_le (chain : Chain) :
    chain.nesting ≤ countKind .openBracket chain.tokens := by
  match chain with
  | .done => exact Nat.le_refl 0
  | .link joint operand rest =>
      have hoperand := operand.nesting_le
      have hrest := rest.nesting_le
      simp only [Chain.nesting, Chain.tokens, countKind_cons, countKind_append]
      omega

end

mutual

theorem Operand.depth_le (operand : Operand) :
    operand.tree.depth ≤ countKind .property operand.tokens := by
  match operand with
  | .comparison property operator value =>
      simp only [Operand.tree, Operand.tokens, Expr.depth, countKind_cons,
        property.property, beq_self_eq_true, if_true]
      omega
  | .bracketed opening inner closing =>
      have hinner := inner.depth_le
      simp only [Operand.tree, Operand.tokens, countKind_cons, countKind_append]
      omega

theorem Scope.depth_le (scope : Scope) :
    scope.tree.depth ≤ countKind .property scope.tokens := by
  match scope with
  | .mk first rest =>
      have hfirst := first.depth_le
      have hrest := rest.depth_foldOnto_le first.tree
      simp only [Scope.tree, Scope.tokens, countKind_append]
      omega

theorem Chain.depth_foldOnto_le (chain : Chain) (left : Expr) :
    (chain.foldOnto left).depth ≤
      left.depth + countKind .property chain.tokens := by
  match chain with
  | .done => exact Nat.le_refl _
  | .link joint operand rest =>
      have hleft := left.depth_pos
      have hpositive := operand.tree.depth_pos
      have hoperand := operand.depth_le
      have hrest :=
        rest.depth_foldOnto_le (.logical joint.connective left operand.tree)
      simp only [Expr.depth] at hrest
      simp only [Chain.foldOnto, Chain.tokens, countKind_cons, countKind_append]
      omega

end

end Grammar

namespace Folding

open Grammar

theorem fits_of_countKind_le {limits : Limits} {scope : Scope}
    (hbrackets : countKind .openBracket scope.tokens ≤ limits.nesting)
    (hproperties : countKind .property scope.tokens ≤ limits.treeDepth) :
    Fits limits 0 scope where
  nesting := by
    have hnesting := scope.nesting_le
    omega
  depth := Nat.le_trans scope.depth_le hproperties

/-! ## Completing what has been read -/

/-- Some token of a kind. -/
def filler (kind : TokenKind) : TokenOf kind := ⟨⟨kind, "", ⟨0, 0⟩⟩, rfl⟩

def closers (count : Nat) : List Token :=
  List.replicate count (filler .closeBracket).val

theorem countKind_closers {kind : TokenKind} (hkind : kind ≠ .closeBracket)
    (count : Nat) : countKind kind (closers count) = 0 := by
  have hother : ((filler .closeBracket).val.kind == kind) = false :=
    beq_false_of_ne hkind.symm
  rw [countKind, closers, List.countP_replicate, hother]
  rfl

variable {limits : Limits}

theorem LeadingSpells.exists_scope {level : Nat} {leading : Option Leading}
    {before : List Token}
    (hleading : LeadingSpells limits level leading before)
    (operand : Operand) :
    ∃ scope : Scope, scope.tokens = before ++ operand.tokens := by
  cases hleading with
  | start => exact ⟨.mk operand .done, List.append_nil operand.tokens⟩
  | joined scope joint hfits => exact ⟨scope.snoc joint operand, by simp⟩

/-- The innermost scope, with the rest of its last comparison. -/
theorem ProgressSpells.exists_scope {level : Nat} {progress : Progress}
    {inside : List Token}
    (hprogress : ProgressSpells limits level progress inside) :
    ∃ (scope : Scope) (more : List Token), scope.tokens = inside ++ more ∧
      countKind .openBracket more = 0 ∧ countKind .property more ≤ 1 := by
  cases hprogress with
  | beforeOperand hleading =>
      rcases hleading.exists_scope
        (.comparison (filler _) (filler _) (filler _)) with ⟨scope, hscope⟩
      exact ⟨scope, _, hscope, rfl, Nat.le_refl 1⟩
  | afterProperty property hleading =>
      rcases hleading.exists_scope
        (.comparison property (filler _) (filler _)) with ⟨scope, hscope⟩
      exact
        ⟨scope, [(filler .operator).val, (filler .value).val],
          by simp [hscope, Operand.tokens], rfl, Nat.zero_le 1⟩
  | afterOperator property operator hleading =>
      rcases hleading.exists_scope
        (.comparison property operator (filler _)) with ⟨scope, hscope⟩
      exact
        ⟨scope, [(filler .value).val], by simp [hscope, Operand.tokens], rfl,
          Nat.zero_le 1⟩
  | afterOperand scope hfits =>
      exact ⟨scope, [], by simp, rfl, Nat.zero_le 1⟩

/-- The whole query when the innermost scope is complete: every open bracket is
closed. -/
theorem EnclosingSpells.exists_scope {enclosing : List Enclosing}
    {around : List Token}
    (henclosing : EnclosingSpells limits enclosing around) (inner : Scope) :
    ∃ scope : Scope,
      scope.tokens = around ++ inner.tokens ++ closers enclosing.length := by
  induction henclosing generalizing inner with
  | top => exact ⟨inner, by simp [closers]⟩
  | opened opening henclosing hleading hroom ih =>
      rcases hleading.exists_scope
        (.bracketed opening inner (filler _)) with ⟨outer, houter⟩
      rcases ih outer with ⟨scope, hscope⟩
      refine ⟨scope, ?_⟩
      rw [hscope, houter]
      simp [Operand.tokens, closers, List.replicate_succ]

theorem Spells.exists_scope {state : State} {tokens : List Token}
    (hspells : Spells limits state tokens) :
    ∃ (scope : Scope) (more : List Token), scope.tokens = tokens ++ more ∧
      countKind .openBracket more = 0 ∧ countKind .property more ≤ 1 := by
  rcases hspells with ⟨around, inside, rfl, henclosing, hprogress⟩
  rcases hprogress.exists_scope with
    ⟨inner, more, hinner, hbrackets, hproperties⟩
  rcases henclosing.exists_scope inner with ⟨scope, hscope⟩
  refine ⟨scope, more ++ closers state.enclosing.length, ?_, ?_, ?_⟩
  · rw [hscope, hinner]
    simp
  · simp [hbrackets, countKind_closers]
  · simpa [countKind_closers] using hproperties

/-! ## Errors of single tokens -/

/-- The error says that something is missing at the end of the tokens. -/
def IsEndError : ParseError → Prop
  | .unmatchedOpening _ => True
  | .wrongOrder (.wrongKind _ _ none) _ => True
  | _ => False

theorem not_isEndError_of_complete {leading : Option Leading} {tree : Expr}
    {depth position : Nat} {error : ParseError}
    (hcomplete : complete limits leading tree depth position = .error error) :
    ¬IsEndError error := by
  unfold complete at hcomplete
  split at hcomplete
  split at hcomplete
  · rw [← Except.error.inj hcomplete]
    exact id
  · contradiction

theorem not_isEndError_of_stepBeforeOperand {enclosing : List Enclosing}
    {leading : Option Leading} {token : Token} {error : ParseError}
    (hstep : stepBeforeOperand limits enclosing leading token = .error error) :
    ¬IsEndError error := by
  unfold stepBeforeOperand at hstep
  cases hkind : token.kind with
  | property => simp [hkind] at hstep
  | connective | operator | value =>
      simp only [hkind] at hstep
      rw [← Except.error.inj hstep]
      exact id
  | openBracket =>
      simp only [hkind] at hstep
      split at hstep
      · rw [← Except.error.inj hstep]
        exact id
      · contradiction
  | closeBracket =>
      simp only [hkind] at hstep
      split at hstep <;>
      · rw [← Except.error.inj hstep]
        exact id

theorem not_isEndError_of_stepAfterOperand {enclosing : List Enclosing}
    {tree : Expr} {depth : Nat} {token : Token} {error : ParseError}
    (hstep :
      stepAfterOperand limits enclosing tree depth token = .error error) :
    ¬IsEndError error := by
  unfold stepAfterOperand at hstep
  cases hkind : token.kind with
  | property | openBracket | operator | value =>
      simp only [hkind] at hstep
      rw [← Except.error.inj hstep]
      exact id
  | connective =>
      simp only [hkind] at hstep
      split at hstep
      · contradiction
      · rw [← Except.error.inj hstep]
        exact id
  | closeBracket =>
      simp only [hkind] at hstep
      split at hstep
      · rw [← Except.error.inj hstep]
        exact id
      · exact not_isEndError_of_complete (Outcome.map_eq_error_iff.mp hstep)

theorem not_isEndError_of_step {state : State} {token : Token}
    {error : ParseError} (hstep : step limits state token = .error error) :
    ¬IsEndError error := by
  unfold step at hstep
  split at hstep
  · exact not_isEndError_of_stepBeforeOperand hstep
  · split at hstep
    · contradiction
    · rw [← Except.error.inj hstep]
      exact id
  · split at hstep
    · exact not_isEndError_of_complete (Outcome.map_eq_error_iff.mp hstep)
    · rw [← Except.error.inj hstep]
      exact id
  · exact not_isEndError_of_stepAfterOperand hstep

theorem exists_step_of_run_error {state : State} {tokens : List Token}
    {error : ParseError} (hrun : run limits state tokens = .error error) :
    ∃ before token after next, tokens = before ++ token :: after ∧
      run limits state before = .ok next ∧
      step limits next token = .error error := by
  induction tokens generalizing state with
  | nil => contradiction
  | cons token rest ih =>
      cases hstep : step limits state token with
      | error other =>
          rw [run_cons_of_error hstep] at hrun
          rw [Except.error.inj hrun] at hstep
          exact ⟨[], token, rest, state, rfl, rfl, hstep⟩
      | ok following =>
          rw [run_cons_of_step hstep] at hrun
          rcases ih hrun with ⟨before, wrong, after, next, rfl, hbefore, hwrong⟩
          refine ⟨token :: before, wrong, after, next, rfl, ?_, hwrong⟩
          rw [run_cons_of_step hstep]
          exact hbefore

/-! ## Viable prefixes -/

/-- The tokens can be completed to those of a query. -/
def IsViable (limits : Limits) (tokens : List Token) : Prop :=
  ∃ more tree, Expr.ofTokens limits (tokens ++ more) = .ok tree

theorem ofTokens_append_of_run_error {tokens : List Token} {error : ParseError}
    (hrun : run limits {} tokens = .error error) (more : List Token) :
    Expr.ofTokens limits (tokens ++ more) = .error error := by
  have hall := run_append_of_error hrun more
  unfold run at hall
  rw [Expr.ofTokens, hall]

theorem ofTokens_of_run {tokens : List Token} {state : State}
    (hrun : run limits {} tokens = .ok state) :
    Expr.ofTokens limits tokens = finish state (stopOf tokens) := by
  unfold run at hrun
  rw [Expr.ofTokens, hrun]

theorem exists_run_of_isViable {tokens : List Token}
    (hviable : IsViable limits tokens) :
    ∃ state, run limits {} tokens = .ok state := by
  rcases hviable with ⟨more, tree, hparse⟩
  cases hrun : run limits {} tokens with
  | ok state => exact ⟨state, rfl⟩
  | error error =>
      rw [ofTokens_append_of_run_error hrun] at hparse
      contradiction

theorem isViable_of_run {tokens : List Token}
    (hnesting : tokens.length ≤ limits.nesting)
    (hdepth : tokens.length + 1 ≤ limits.treeDepth) {state : State}
    (hrun : run limits {} tokens = .ok state) : IsViable limits tokens := by
  have hspells := (spells_start limits).run hrun
  rcases hspells.exists_scope with
    ⟨scope, more, hscope, hbrackets, hproperties⟩
  rw [List.nil_append] at hscope
  have hopen := countKind_le_length .openBracket tokens
  have hnamed := countKind_le_length .property tokens
  have hfits : Fits limits 0 scope := by
    apply fits_of_countKind_le
    · rw [hscope, countKind_append]
      omega
    · rw [hscope, countKind_append]
      omega
  refine ⟨more, scope.tree, ?_⟩
  rw [← hscope]
  exact ofTokens_scope hfits

/-- Tokens that end where more is needed, with the error that says so. -/
inductive IsCutShort : List Token → ParseError → Prop where
  | empty : IsCutShort [] (.emptyExpression 0)
  | inBrackets (before inside : List Token) (opening : TokenOf .openBracket) :
    IsCutShort (before ++ opening.val :: inside)
      (.unmatchedOpening opening.val.span.start)
  | afterProperty (before : List Token) (property : TokenOf .property) :
    IsCutShort (before ++ [property.val])
      (.wrongOrder (.wrongKind .operator property.val none)
        property.val.span.stop)
  | afterOperator (before : List Token) (property : TokenOf .property)
      (operator : TokenOf .operator) :
    IsCutShort (before ++ [property.val, operator.val])
      (.wrongOrder (.wrongKind .value operator.val none)
        operator.val.span.stop)
  | afterConnective (scope : Scope) (joint : Joint) :
    IsCutShort (scope.tokens ++ [joint.token])
      (.wrongOrder .operandMissing joint.token.span.start)

/-- The innermost open bracket is the last one of those around the innermost
scope. -/
theorem EnclosingSpells.exists_opening {innermost : Enclosing}
    {outer : List Enclosing} {around : List Token}
    (henclosing : EnclosingSpells limits (innermost :: outer) around) :
    ∃ before, ∃ opening : TokenOf .openBracket,
      around = before ++ [opening.val] ∧
        opening.val.span.start = innermost.bracket := by
  cases henclosing with
  | @opened _ _ around before opening houter hleading hroom =>
      exact ⟨around ++ before, opening, rfl, rfl⟩

theorem isCutShort_of_opened {innermost : Enclosing} {outer : List Enclosing}
    {around : List Token}
    (henclosing : EnclosingSpells limits (innermost :: outer) around)
    (inside : List Token) :
    IsCutShort (around ++ inside) (.unmatchedOpening innermost.bracket) := by
  rcases henclosing.exists_opening with ⟨before, opening, rfl, hbracket⟩
  rw [← hbracket, List.append_assoc]
  exact .inBrackets before inside opening

theorem isCutShort_of_finish {state : State} {tokens : List Token}
    {error : ParseError} (hspells : Spells limits state tokens)
    (hfinish : finish state (stopOf tokens) = .error error) :
    IsCutShort tokens error := by
  rcases state with ⟨enclosing, progress⟩
  rcases hspells with ⟨around, inside, rfl, henclosing, hprogress⟩
  cases hprogress with
  | @afterProperty leading before property hleading =>
      have hshort : IsCutShort _ _ :=
        .afterProperty (around ++ before) property
      rw [← Except.error.inj hfinish]
      simpa [stopOf] using hshort
  | @afterOperator leading before property operator hleading =>
      have hshort : IsCutShort _ _ :=
        .afterOperator (around ++ before) property operator
      rw [← Except.error.inj hfinish]
      simpa [stopOf] using hshort
  | afterOperand scope hfits =>
      cases enclosing with
      | nil => contradiction
      | cons innermost outer =>
          rw [← Except.error.inj hfinish]
          exact isCutShort_of_opened henclosing scope.tokens
  | beforeOperand hleading =>
      cases enclosing with
      | cons innermost outer =>
          rw [← Except.error.inj hfinish]
          exact isCutShort_of_opened henclosing inside
      | nil =>
          cases henclosing
          cases hleading with
          | start =>
              rw [← Except.error.inj hfinish]
              exact .empty
          | joined scope joint hfits =>
              rw [← Except.error.inj hfinish]
              exact .afterConnective scope joint

theorem run_of_isCutShort {tokens : List Token}
    (hnesting : tokens.length ≤ limits.nesting)
    (hdepth : tokens.length + 1 ≤ limits.treeDepth) {error : ParseError}
    (herror : Expr.ofTokens limits tokens = .error error)
    (hshort : IsCutShort tokens error) :
    ∃ state, run limits {} tokens = .ok state := by
  cases hrun : run limits {} tokens with
  | ok state => exact ⟨state, rfl⟩
  | error other =>
      exfalso
      have hparse := ofTokens_append_of_run_error hrun []
      rw [List.append_nil, herror] at hparse
      rw [← Except.error.inj hparse] at hrun
      rcases exists_step_of_run_error hrun with ⟨_, _, _, _, -, -, hstep⟩
      have hother := not_isEndError_of_step hstep
      cases hshort with
      | empty => contradiction
      | inBrackets before inside opening => exact hother trivial
      | afterProperty before property => exact hother trivial
      | afterOperator before property operator => exact hother trivial
      | afterConnective scope joint =>
          simp only [List.length_append, List.length_singleton]
            at hnesting hdepth
          have hopen := countKind_le_length .openBracket scope.tokens
          have hnamed := countKind_le_length .property scope.tokens
          have hfits : Fits limits 0 scope :=
            fits_of_countKind_le (by omega) (by omega)
          have hscope :=
            run_scope limits [] scope hfits.nesting hfits.depth
          have hall := run_append_of_run hscope [joint.token]
          rw [run_cons_of_step (step_joint joint _ _)] at hall
          rw [hall] at hrun
          contradiction

/-- If tokens are refused within limits that are as large as their number, they
are refused for the same reason whatever follows, or they can be completed, but
not both. They can be completed exactly if every token was accepted and the
error was raised at their end, and this is so exactly if they are empty, or end
within brackets, within a comparison or after a connective. -/
theorem viablePrefix_of_ofTokens_error (limits : Limits) (tokens : List Token)
    (hnesting : tokens.length ≤ limits.nesting)
    (hdepth : tokens.length + 1 ≤ limits.treeDepth) {error : ParseError}
    (herror : Expr.ofTokens limits tokens = .error error) :
    ((∀ more, Expr.ofTokens limits (tokens ++ more) = .error error) ↔
      ¬IsViable limits tokens) ∧
    (IsViable limits tokens ↔
      ∃ state, run limits {} tokens = .ok state ∧
        finish state (stopOf tokens) = .error error) ∧
    (IsViable limits tokens ↔ IsCutShort tokens error) := by
  have hatEnd : ∀ state, run limits {} tokens = .ok state →
      finish state (stopOf tokens) = .error error := by
    intro state hrun
    rw [← ofTokens_of_run hrun]
    exact herror
  refine ⟨⟨?_, ?_⟩, ⟨?_, ?_⟩, ⟨?_, ?_⟩⟩
  · rintro hrefused ⟨more, tree, hparse⟩
    rw [hrefused more] at hparse
    contradiction
  · intro hwrong more
    cases hrun : run limits {} tokens with
    | ok state => exact absurd (isViable_of_run hnesting hdepth hrun) hwrong
    | error other =>
        have hparse := ofTokens_append_of_run_error hrun []
        rw [List.append_nil, herror] at hparse
        rw [Except.error.inj hparse]
        exact ofTokens_append_of_run_error hrun more
  · intro hviable
    rcases exists_run_of_isViable hviable with ⟨state, hrun⟩
    exact ⟨state, hrun, hatEnd state hrun⟩
  · rintro ⟨state, hrun, -⟩
    exact isViable_of_run hnesting hdepth hrun
  · intro hviable
    rcases exists_run_of_isViable hviable with ⟨state, hrun⟩
    have hspells := (spells_start limits).run hrun
    exact isCutShort_of_finish hspells (hatEnd state hrun)
  · intro hshort
    rcases run_of_isCutShort hnesting hdepth herror hshort with ⟨state, hrun⟩
    exact isViable_of_run hnesting hdepth hrun

/-- The tokens of `(Age == '1' &&`. -/
def openTokens : List Token :=
  [⟨.openBracket, "(", ⟨0, 1⟩⟩, ⟨.property, "Age", ⟨1, 4⟩⟩,
    ⟨.operator, "==", ⟨5, 7⟩⟩, ⟨.value, "'1'", ⟨8, 11⟩⟩,
    ⟨.connective, "&&", ⟨12, 14⟩⟩]

/-- The closing bracket comes too early, and nothing can make up for it. -/
theorem viablePrefix_openTokens :
    let closed := openTokens ++ [⟨.closeBracket, ")", ⟨15, 16⟩⟩]
    Expr.ofTokens ⟨5, 6⟩ openTokens = .error (.unmatchedOpening 0) ∧
      IsViable ⟨5, 6⟩ openTokens ∧
      Expr.ofTokens ⟨6, 7⟩ closed =
        .error (.wrongOrder .operandMissing 12) ∧
      ∀ more, Expr.ofTokens ⟨6, 7⟩ (closed ++ more) =
        .error (.wrongOrder .operandMissing 12) := by
  intro closed
  have hopen : Expr.ofTokens ⟨5, 6⟩ openTokens =
      .error (.unmatchedOpening 0) := by
    rfl
  have hclosed : Expr.ofTokens ⟨6, 7⟩ closed =
      .error (.wrongOrder .operandMissing 12) := by
    rfl
  have hrefused : ∀ state, run ⟨6, 7⟩ {} closed ≠ .ok state := by
    intro state hrun
    contradiction
  rcases viablePrefix_of_ofTokens_error ⟨5, 6⟩ openTokens (Nat.le_refl 5)
    (Nat.le_refl 6) hopen with ⟨-, -, hviable⟩
  rcases viablePrefix_of_ofTokens_error ⟨6, 7⟩ closed (Nat.le_refl 6)
    (Nat.le_refl 7) hclosed with ⟨hforGood, hatEnd, -⟩
  refine ⟨hopen, hviable.mpr ?_, hclosed, hforGood.mpr ?_⟩
  · exact .inBrackets [] openTokens.tail (⟨_, rfl⟩ : TokenOf .openBracket)
  · intro hcompletes
    rcases hatEnd.mp hcompletes with ⟨state, hrun, -⟩
    exact hrefused state hrun

end Folding

end RecordFilter

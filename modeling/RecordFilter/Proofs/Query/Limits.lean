import RecordFilter.Proofs.Query.ViablePrefix

/-!
# Larger limits

Two parsers that differ in their limits go through the same states until the one
with the smaller limits stops for a limit. So larger limits take away errors
about limits and change nothing else. A bracket is refused by the number of
brackets that are open before it, which is the number of scopes around the
innermost one.
-/

namespace RecordFilter

/-- The error is about a limit. -/
def ParseError.IsLimit : ParseError → Prop
  | .nestingTooDeep _ _ => True
  | .treeTooDeep _ _ => True
  | _ => False

/-- How many brackets are open behind a token. A closing bracket that closes
none is passed over. -/
def Token.levelAfter (level : Nat) (token : Token) : Nat :=
  match token.kind with
  | .openBracket => level + 1
  | .closeBracket => level - 1
  | _ => level

/-- The number of brackets that some tokens leave open. -/
def unclosedBrackets (tokens : List Token) : Nat :=
  tokens.foldl Token.levelAfter 0

/-- The bracket after some tokens is the first one that has as many open
brackets before it as a limit allows. -/
structure IsFirstExcess (limit : Nat) (before : List Token) (opening : Token) :
    Prop where
  isBracket : opening.kind = .openBracket
  limit_le : limit ≤ unclosedBrackets before
  lt_of_earlier : ∀ front token back, before = front ++ token :: back →
    token.kind = .openBracket → unclosedBrackets front < limit

namespace Folding

/-! ## Two parsers in step -/

/-- What is read within smaller limits is what is read within larger ones,
unless a limit was passed. -/
def AgreesUpToLimits {β : Type} (small large : Except ParseError β) : Prop :=
  small = large ∨ ∃ error, small = .error error ∧ error.IsLimit

theorem AgreesUpToLimits.map {β γ : Type} {small large : Except ParseError β}
    (hagrees : AgreesUpToLimits small large) (f : β → γ) :
    AgreesUpToLimits (small.map f) (large.map f) := by
  rcases hagrees with hsame | ⟨error, herror, hlimit⟩
  · left
    rw [hsame]
  · right
    refine ⟨error, ?_, hlimit⟩
    rw [herror]
    rfl

section Lockstep

variable {limits larger : Limits}

theorem complete_agrees (htree : limits.treeDepth ≤ larger.treeDepth)
    (leading : Option Leading) (tree : Expr) (depth position : Nat) :
    AgreesUpToLimits (complete limits leading tree depth position)
      (complete larger leading tree depth position) := by
  have hcheck : ∀ (tree : Expr) (depth : Nat),
      AgreesUpToLimits
        (if limits.treeDepth < depth then
          .error (.treeTooDeep limits.treeDepth position)
        else .ok (Progress.afterOperand tree depth))
        (if larger.treeDepth < depth then
          .error (.treeTooDeep larger.treeDepth position)
        else .ok (.afterOperand tree depth)) := by
    intro tree depth
    by_cases hdeep : limits.treeDepth < depth
    · right
      exact ⟨.treeTooDeep limits.treeDepth position, if_pos hdeep, trivial⟩
    · left
      have hroom : ¬larger.treeDepth < depth := by omega
      rw [if_neg hdeep, if_neg hroom]
  cases leading with
  | none => exact hcheck tree depth
  | some left =>
      exact hcheck (.logical left.connective left.tree tree)
        (1 + max left.depth depth)

theorem stepBeforeOperand_agrees (hnesting : limits.nesting ≤ larger.nesting)
    (enclosing : List Enclosing) (leading : Option Leading) (token : Token) :
    AgreesUpToLimits (stepBeforeOperand limits enclosing leading token)
      (stepBeforeOperand larger enclosing leading token) := by
  unfold stepBeforeOperand
  cases hkind : token.kind with
  | openBracket =>
      by_cases hfull : limits.nesting ≤ enclosing.length
      · right
        exact
          ⟨.nestingTooDeep limits.nesting token.span.start, if_pos hfull,
            trivial⟩
      · left
        have hroom : ¬larger.nesting ≤ enclosing.length := by omega
        simp only [hfull, hroom, if_false]
  | property | operator | connective | closeBracket | value =>
      left
      rfl

theorem stepAfterOperand_agrees (htree : limits.treeDepth ≤ larger.treeDepth)
    (enclosing : List Enclosing) (tree : Expr) (depth : Nat) (token : Token) :
    AgreesUpToLimits (stepAfterOperand limits enclosing tree depth token)
      (stepAfterOperand larger enclosing tree depth token) := by
  unfold stepAfterOperand
  cases hkind : token.kind with
  | closeBracket =>
      cases enclosing with
      | nil =>
          left
          rfl
      | cons outer rest =>
          have hcomplete :=
            complete_agrees htree outer.leading tree depth outer.bracket
          exact hcomplete.map _
  | property | operator | connective | openBracket | value =>
      left
      rfl

theorem step_agrees (hnesting : limits.nesting ≤ larger.nesting)
    (htree : limits.treeDepth ≤ larger.treeDepth) (state : State)
    (token : Token) :
    AgreesUpToLimits (step limits state token) (step larger state token) := by
  unfold step
  cases state.progress with
  | beforeOperand leading =>
      exact stepBeforeOperand_agrees hnesting state.enclosing leading token
  | afterOperand tree depth =>
      exact stepAfterOperand_agrees htree state.enclosing tree depth token
  | afterProperty leading property =>
      left
      rfl
  | afterOperator leading property operator =>
      by_cases hvalue : token.kind = .value
      · have hcomplete := complete_agrees htree leading
          (.comparison property operator token) 1 property.span.start
        simp only [hvalue, if_true]
        exact hcomplete.map _
      · left
        simp only [hvalue, if_false]

theorem run_agrees (hnesting : limits.nesting ≤ larger.nesting)
    (htree : limits.treeDepth ≤ larger.treeDepth) (state : State)
    (tokens : List Token) :
    AgreesUpToLimits (run limits state tokens) (run larger state tokens) := by
  induction tokens generalizing state with
  | nil =>
      left
      rfl
  | cons token rest ih =>
      rcases step_agrees hnesting htree state token with
        hsame | ⟨error, herror, hlimit⟩
      · cases hstep : step larger state token with
        | error other =>
            rw [hstep] at hsame
            left
            rw [run_cons_of_error hsame, run_cons_of_error hstep]
        | ok next =>
            rw [hstep] at hsame
            rw [run_cons_of_step hsame, run_cons_of_step hstep]
            exact ih next
      · right
        exact ⟨error, run_cons_of_error herror rest, hlimit⟩

theorem ofTokens_eq_run (limits : Limits) (tokens : List Token) :
    Expr.ofTokens limits tokens =
      (run limits {} tokens >>= (finish · (stopOf tokens))) := by
  unfold Expr.ofTokens run
  cases tokens.foldlM (step limits) {} with
  | error error => rfl
  | ok state => rfl

theorem ofTokens_agrees (hnesting : limits.nesting ≤ larger.nesting)
    (htree : limits.treeDepth ≤ larger.treeDepth) (tokens : List Token) :
    AgreesUpToLimits (Expr.ofTokens limits tokens)
      (Expr.ofTokens larger tokens) := by
  rw [ofTokens_eq_run, ofTokens_eq_run]
  rcases run_agrees hnesting htree {} tokens with
    hsame | ⟨error, herror, hlimit⟩
  · left
    rw [hsame]
  · right
    refine ⟨error, ?_, hlimit⟩
    rw [herror]
    rfl

end Lockstep

/-! ## Open brackets -/

section Brackets

variable {limits : Limits}

theorem length_enclosing_of_stepBeforeOperand {enclosing : List Enclosing}
    {leading : Option Leading} {token : Token} {next : State}
    (hstep : stepBeforeOperand limits enclosing leading token = .ok next) :
    next.enclosing.length = token.levelAfter enclosing.length ∧
      (token.kind = .openBracket → enclosing.length < limits.nesting) := by
  unfold stepBeforeOperand at hstep
  unfold Token.levelAfter
  cases hkind : token.kind with
  | property =>
      simp only [hkind] at hstep
      rw [← Except.ok.inj hstep]
      simp
  | openBracket =>
      simp only [hkind] at hstep
      split at hstep
      next => contradiction
      next hroom =>
        rw [← Except.ok.inj hstep]
        simp only [List.length_cons, true_and]
        omega
  | closeBracket =>
      simp only [hkind] at hstep
      split at hstep <;> contradiction
  | connective | operator | value =>
      simp [hkind] at hstep

theorem length_enclosing_of_stepAfterOperand {enclosing : List Enclosing}
    {tree : Expr} {depth : Nat} {token : Token} {next : State}
    (hstep : stepAfterOperand limits enclosing tree depth token = .ok next) :
    next.enclosing.length = token.levelAfter enclosing.length ∧
      token.kind ≠ .openBracket := by
  unfold stepAfterOperand at hstep
  unfold Token.levelAfter
  cases hkind : token.kind with
  | connective =>
      simp only [hkind] at hstep
      split at hstep
      next =>
        rw [← Except.ok.inj hstep]
        simp
      next => contradiction
  | closeBracket =>
      simp only [hkind] at hstep
      cases enclosing with
      | nil => contradiction
      | cons outer rest =>
          rcases Outcome.map_eq_ok_iff.mp hstep with ⟨progress, -, hnext⟩
          rw [← hnext]
          simp
  | property | openBracket | operator | value =>
      simp [hkind] at hstep

theorem length_enclosing_of_step {state next : State} {token : Token}
    (hstep : step limits state token = .ok next) :
    next.enclosing.length = token.levelAfter state.enclosing.length ∧
      (token.kind = .openBracket →
        state.enclosing.length < limits.nesting) := by
  unfold step at hstep
  split at hstep
  · exact length_enclosing_of_stepBeforeOperand hstep
  · split at hstep
    next hkind =>
      rw [← Except.ok.inj hstep]
      simp [Token.levelAfter, hkind]
    next => contradiction
  · split at hstep
    next hkind =>
      rcases Outcome.map_eq_ok_iff.mp hstep with ⟨progress, -, hnext⟩
      rw [← hnext]
      simp [Token.levelAfter, hkind]
    next => contradiction
  · rcases length_enclosing_of_stepAfterOperand hstep with ⟨hlength, hkind⟩
    exact ⟨hlength, fun hopen => absurd hopen hkind⟩

theorem length_enclosing_of_run {state last : State} {tokens : List Token}
    (hrun : run limits state tokens = .ok last) :
    last.enclosing.length =
      tokens.foldl Token.levelAfter state.enclosing.length := by
  induction tokens generalizing state with
  | nil =>
      rw [← Except.ok.inj hrun]
      rfl
  | cons token rest ih =>
      rcases run_cons_eq_ok hrun with ⟨next, hstep, hrest⟩
      rw [ih hrest, (length_enclosing_of_step hstep).1]
      rfl

theorem exists_run_of_append {state last : State} {front back : List Token}
    (hrun : run limits state (front ++ back) = .ok last) :
    ∃ middle, run limits state front = .ok middle ∧
      run limits middle back = .ok last := by
  cases hfront : run limits state front with
  | error error =>
      rw [run_append_of_error hfront] at hrun
      contradiction
  | ok middle =>
      rw [run_append_of_run hfront] at hrun
      exact ⟨middle, rfl, hrun⟩

/-- Before every bracket that was accepted there was room for it. -/
theorem unclosedBrackets_lt_of_run {last : State} {front back : List Token}
    {token : Token} (hrun : run limits {} (front ++ token :: back) = .ok last)
    (hopen : token.kind = .openBracket) :
    unclosedBrackets front < limits.nesting := by
  rcases exists_run_of_append hrun with ⟨middle, hfront, hback⟩
  rcases run_cons_eq_ok hback with ⟨next, hstep, -⟩
  have hroom := (length_enclosing_of_step hstep).2 hopen
  rw [length_enclosing_of_run hfront] at hroom
  exact hroom

/-! ## The bracket that is one too many -/

/-- The ways in which one token is refused. -/
inductive Refuses (limits : Limits) (state : State) (token : Token) :
    ParseError → Prop where
  | misplaced (fault : OrderFault) :
    Refuses limits state token (.wrongOrder fault token.span.start)
  | dangling (left : Leading) (hkind : token.kind = .closeBracket)
      (hprogress : state.progress = .beforeOperand (some left)) :
    Refuses limits state token (.wrongOrder .operandMissing left.position)
  | empty (hkind : token.kind = .closeBracket)
      (hprogress : state.progress = .beforeOperand none) :
    Refuses limits state token (.emptyExpression token.span.start)
  | unmatched (hkind : token.kind = .closeBracket)
      (henclosing : state.enclosing = []) :
    Refuses limits state token (.unmatchedClosing token.span.start)
  | nested (hkind : token.kind = .openBracket)
      (hfull : limits.nesting ≤ state.enclosing.length) :
    Refuses limits state token
      (.nestingTooDeep limits.nesting token.span.start)
  | deep (position : Nat) :
    Refuses limits state token (.treeTooDeep limits.treeDepth position)

theorem refuses_of_complete {state : State} {token : Token}
    {leading : Option Leading} {tree : Expr} {depth position : Nat}
    {error : ParseError}
    (hcomplete : complete limits leading tree depth position = .error error) :
    Refuses limits state token error := by
  unfold complete at hcomplete
  split at hcomplete
  split at hcomplete
  · rw [← Except.error.inj hcomplete]
    exact .deep position
  · contradiction

theorem refuses_of_stepBeforeOperand {enclosing : List Enclosing}
    {leading : Option Leading} {token : Token} {error : ParseError}
    (hstep : stepBeforeOperand limits enclosing leading token = .error error) :
    Refuses limits ⟨enclosing, .beforeOperand leading⟩ token error := by
  unfold stepBeforeOperand at hstep
  cases hkind : token.kind with
  | property => simp [hkind] at hstep
  | connective | operator | value =>
      simp only [hkind] at hstep
      rw [← Except.error.inj hstep]
      exact .misplaced _
  | openBracket =>
      simp only [hkind] at hstep
      split at hstep
      next hfull =>
        rw [← Except.error.inj hstep]
        exact .nested hkind hfull
      next => contradiction
  | closeBracket =>
      simp only [hkind] at hstep
      split at hstep
      · rw [← Except.error.inj hstep]
        exact .unmatched hkind rfl
      · rw [← Except.error.inj hstep]
        exact .dangling _ hkind rfl
      · rw [← Except.error.inj hstep]
        exact .empty hkind rfl

theorem refuses_of_stepAfterOperand {enclosing : List Enclosing}
    {tree : Expr} {depth : Nat} {token : Token} {error : ParseError}
    (hstep :
      stepAfterOperand limits enclosing tree depth token = .error error) :
    Refuses limits ⟨enclosing, .afterOperand tree depth⟩ token error := by
  unfold stepAfterOperand at hstep
  cases hkind : token.kind with
  | property | openBracket | operator | value =>
      simp only [hkind] at hstep
      rw [← Except.error.inj hstep]
      exact .misplaced _
  | connective =>
      simp only [hkind] at hstep
      split at hstep
      · contradiction
      · rw [← Except.error.inj hstep]
        exact .misplaced _
  | closeBracket =>
      simp only [hkind] at hstep
      split at hstep
      · rw [← Except.error.inj hstep]
        exact .unmatched hkind rfl
      · exact refuses_of_complete (Outcome.map_eq_error_iff.mp hstep)

theorem refuses_of_step {state : State} {token : Token} {error : ParseError}
    (hstep : step limits state token = .error error) :
    Refuses limits state token error := by
  rcases state with ⟨enclosing, progress⟩
  cases progress with
  | beforeOperand leading => exact refuses_of_stepBeforeOperand hstep
  | afterOperand tree depth => exact refuses_of_stepAfterOperand hstep
  | afterProperty leading property =>
      simp only [step] at hstep
      split at hstep
      · contradiction
      · rw [← Except.error.inj hstep]
        exact .misplaced _
  | afterOperator leading property operator =>
      simp only [step] at hstep
      split at hstep
      · exact refuses_of_complete (Outcome.map_eq_error_iff.mp hstep)
      · rw [← Except.error.inj hstep]
        exact .misplaced _

theorem not_isLimit_of_finish {state : State} {stop : Nat} {error : ParseError}
    (hfinish : finish state stop = .error error) : ¬error.IsLimit := by
  unfold finish at hfinish
  split at hfinish
  case h_6 => contradiction
  all_goals
    rw [← Except.error.inj hfinish]
    exact id

/-- Tokens are refused for one of them, or at their end. -/
theorem refuses_or_finish_of_ofTokens {tokens : List Token} {error : ParseError}
    (herror : Expr.ofTokens limits tokens = .error error) :
    (∃ before token after state, tokens = before ++ token :: after ∧
      run limits {} before = .ok state ∧ Refuses limits state token error) ∨
    ∃ state, run limits {} tokens = .ok state ∧
      finish state (stopOf tokens) = .error error := by
  rw [ofTokens_eq_run, Outcome.bind_eq_error_iff] at herror
  rcases herror with hrun | hend
  · rcases exists_step_of_run_error hrun with
      ⟨before, token, after, state, htokens, hbefore, hstep⟩
    exact .inl
      ⟨before, token, after, state, htokens, hbefore, refuses_of_step hstep⟩
  · exact .inr hend

/-- A query that is refused for its brackets is refused at the first bracket for
which there is no room. -/
theorem exists_isFirstExcess {tokens : List Token} {limit position : Nat}
    (herror :
      Expr.ofTokens limits tokens = .error (.nestingTooDeep limit position)) :
    limit = limits.nesting ∧ ∃ before opening after,
      tokens = before ++ opening :: after ∧
        IsFirstExcess limits.nesting before opening ∧
        position = opening.span.start := by
  rcases refuses_or_finish_of_ofTokens herror with
    ⟨before, opening, after, state, htokens, hbefore, hrefuses⟩ |
      ⟨state, -, hfinish⟩
  · cases hrefuses with
    | nested hkind hfull =>
        rw [length_enclosing_of_run hbefore] at hfull
        refine
          ⟨rfl, before, opening, after, htokens, ⟨hkind, hfull, ?_⟩, rfl⟩
        intro front token back hsplit hopen
        rw [hsplit] at hbefore
        exact unclosedBrackets_lt_of_run hbefore hopen
  · exact absurd trivial (not_isLimit_of_finish hfinish)

/-! ## Queries beyond the smaller limits -/

/-- An accepted query nowhere opens more brackets than its limits allow. -/
theorem unclosedBrackets_le_of_ofTokens {front back : List Token} {tree : Expr}
    (hparse : Expr.ofTokens limits (front ++ back) = .ok tree) :
    unclosedBrackets front ≤ limits.nesting := by
  rw [ofTokens_eq_run, Outcome.bind_eq_ok_iff] at hparse
  rcases hparse with ⟨state, hrun, -⟩
  rcases exists_run_of_append hrun with ⟨middle, hfront, -⟩
  rcases (spells_start limits).run hfront with ⟨_, _, -, henclosing, -⟩
  have hlength := henclosing.length_le
  rw [length_enclosing_of_run hfront] at hlength
  exact hlength

theorem depth_le_of_ofTokens {tokens : List Token} {tree : Expr}
    (hparse : Expr.ofTokens limits tokens = .ok tree) :
    tree.depth ≤ limits.treeDepth := by
  rcases exists_scope_of_ofTokens hparse with ⟨scope, -, hfits, htree⟩
  rw [← htree]
  exact hfits.depth

end Brackets

/-- Tokens are read within smaller limits as within larger ones, or they are
refused for a limit. A bracket is refused if it is the first one for which there
is no room. Queries that need the larger limits, for the depth of their trees or
for their brackets, are always refused for a limit by the smaller ones. -/
theorem ofTokens_of_limits_le {limits larger : Limits}
    (hnesting : limits.nesting ≤ larger.nesting)
    (htree : limits.treeDepth ≤ larger.treeDepth) (tokens : List Token) :
    (Expr.ofTokens limits tokens = Expr.ofTokens larger tokens ∨
      ∃ error, Expr.ofTokens limits tokens = .error error ∧ error.IsLimit) ∧
    (∀ limit position,
      Expr.ofTokens limits tokens = .error (.nestingTooDeep limit position) →
        limit = limits.nesting ∧ ∃ before opening after,
          tokens = before ++ opening :: after ∧
            IsFirstExcess limits.nesting before opening ∧
            position = opening.span.start) ∧
    ∀ tree, Expr.ofTokens larger tokens = .ok tree →
      (limits.treeDepth < tree.depth ∨
        ∃ front, front <+: tokens ∧
          limits.nesting < unclosedBrackets front) →
      ∃ error, Expr.ofTokens limits tokens = .error error ∧
        error.IsLimit := by
  have hagrees := ofTokens_agrees hnesting htree tokens
  refine ⟨hagrees, fun limit position => exists_isFirstExcess, ?_⟩
  intro tree hparse hbeyond
  rcases hagrees with hsame | hlimit
  · exfalso
    rw [hparse] at hsame
    rcases hbeyond with hdeep | ⟨front, ⟨back, htokens⟩, hnested⟩
    · have hdepth := depth_le_of_ofTokens hsame
      omega
    · rw [← htokens] at hsame
      have hlevel := unclosedBrackets_le_of_ofTokens hsame
      omega
  · exact hlimit

/-- The tokens of `((A == '1'))`. -/
def doubleBrackets : List Token :=
  [⟨.openBracket, "(", ⟨0, 1⟩⟩, ⟨.openBracket, "(", ⟨1, 2⟩⟩,
    ⟨.property, "A", ⟨2, 3⟩⟩, ⟨.operator, "==", ⟨4, 6⟩⟩,
    ⟨.value, "'1'", ⟨7, 10⟩⟩, ⟨.closeBracket, ")", ⟨10, 11⟩⟩,
    ⟨.closeBracket, ")", ⟨11, 12⟩⟩]

/-- Two brackets are read within two levels, and within one the second bracket
is refused. -/
theorem ofTokens_of_limits_le_doubleBrackets :
    (∃ tree, Expr.ofTokens ⟨2, 1⟩ doubleBrackets = .ok tree) ∧
      Expr.ofTokens ⟨1, 1⟩ doubleBrackets = .error (.nestingTooDeep 1 1) ∧
      (∃ before opening after, doubleBrackets = before ++ opening :: after ∧
        IsFirstExcess 1 before opening ∧ 1 = opening.span.start) ∧
      ∃ error, Expr.ofTokens ⟨1, 1⟩ doubleBrackets = .error error ∧
        error.IsLimit := by
  rcases @ofTokens_of_limits_le ⟨1, 1⟩ ⟨2, 1⟩ (by decide) (by decide)
    doubleBrackets with ⟨-, hfirst, hbeyond⟩
  have hsmall :
      Expr.ofTokens ⟨1, 1⟩ doubleBrackets = .error (.nestingTooDeep 1 1) := by
    rfl
  have hlarge : ∃ tree, Expr.ofTokens ⟨2, 1⟩ doubleBrackets = .ok tree :=
    ⟨_, rfl⟩
  rcases hlarge with ⟨tree, htree⟩
  have hnested : ∃ front, front <+: doubleBrackets ∧
      1 < unclosedBrackets front :=
    ⟨doubleBrackets.take 2, List.take_prefix 2 _, by decide⟩
  exact
    ⟨⟨tree, htree⟩, hsmall, (hfirst 1 1 hsmall).2,
      hbeyond tree htree (.inr hnested)⟩

end Folding

end RecordFilter

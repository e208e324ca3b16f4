import RecordFilter.Proofs.Query.Limits

/-!
# Which bracket is blamed

Brackets are balanced if they are as many of either kind and none is closed
before it was opened. What the parser has read is made up of balanced parts and
of the brackets that are still open: every scope and every left part of a scope
is balanced, and one open bracket stands before each scope that is enclosed. So
a closing bracket that is refused comes after balanced tokens, and an opening
bracket that is refused comes before balanced ones.
-/

namespace RecordFilter

namespace Grammar

/-- Along the way there are never more closing than opening brackets. -/
def ClosesOpened (tokens : List Token) : Prop :=
  ∀ count, countKind .closeBracket (tokens.take count) ≤
    countKind .openBracket (tokens.take count)

structure Balanced (tokens : List Token) : Prop where
  counts_eq : countKind .openBracket tokens = countKind .closeBracket tokens
  closesOpened : ClosesOpened tokens

theorem ClosesOpened.append {front back : List Token}
    (hfront : ClosesOpened front) (hback : ClosesOpened back) :
    ClosesOpened (front ++ back) := by
  intro count
  have hbefore := hfront count
  have hafter := hback (count - front.length)
  rw [List.take_append, countKind_append, countKind_append]
  omega

theorem closesOpened_of_countKind_eq_zero {tokens : List Token}
    (hnone : countKind .closeBracket tokens = 0) : ClosesOpened tokens := by
  intro count
  have hfewer :
      countKind .closeBracket (tokens.take count) ≤
        countKind .closeBracket tokens :=
    (List.take_sublist count tokens).countP_le
  omega

theorem balanced_of_countKind_eq_zero {tokens : List Token}
    (hopen : countKind .openBracket tokens = 0)
    (hclose : countKind .closeBracket tokens = 0) : Balanced tokens where
  counts_eq := by rw [hopen, hclose]
  closesOpened := closesOpened_of_countKind_eq_zero hclose

theorem balanced_nil : Balanced [] :=
  balanced_of_countKind_eq_zero rfl rfl

theorem Balanced.append {front back : List Token} (hfront : Balanced front)
    (hback : Balanced back) : Balanced (front ++ back) where
  counts_eq := by
    rw [countKind_append, countKind_append, hfront.counts_eq, hback.counts_eq]
  closesOpened := hfront.closesOpened.append hback.closesOpened

theorem Balanced.enclose {inner : List Token} (hinner : Balanced inner)
    (opening : TokenOf .openBracket) (closing : TokenOf .closeBracket) :
    Balanced (opening.val :: (inner ++ [closing.val])) where
  counts_eq := by
    have hcounts := hinner.counts_eq
    simp [opening.property, closing.property, hcounts]
  closesOpened := by
    intro count
    cases count with
    | zero => exact Nat.le_refl 0
    | succ count =>
        -- The last bracket is made up for by the first one.
        have hinside := hinner.closesOpened count
        have hlast :
            countKind .closeBracket
                ([closing.val].take (count - inner.length)) ≤ 1 := by
          apply Nat.le_trans (countKind_le_length _ _)
          exact List.length_take_le' _ _
        simp only [List.take_succ_cons, List.take_append, countKind_cons,
          countKind_append, opening.property, beq_self_eq_true, if_true]
        simp only [reduceCtorEq, beq_iff_eq, if_false]
        omega

/-! ## Derivations are balanced -/

theorem Joint.balanced (joint : Joint) : Balanced [joint.token] := by
  apply balanced_of_countKind_eq_zero
  · simp [joint.kind_eq]
  · simp [joint.kind_eq]

mutual

theorem Operand.balanced (operand : Operand) : Balanced operand.tokens := by
  match operand with
  | .comparison property operator value =>
      apply balanced_of_countKind_eq_zero
      · simp [Operand.tokens, property.property, operator.property,
          value.property]
      · simp [Operand.tokens, property.property, operator.property,
          value.property]
  | .bracketed opening inner closing =>
      exact inner.balanced.enclose opening closing

theorem Scope.balanced (scope : Scope) : Balanced scope.tokens := by
  match scope with
  | .mk first rest => exact first.balanced.append rest.balanced

theorem Chain.balanced (chain : Chain) : Balanced chain.tokens := by
  match chain with
  | .done => exact balanced_nil
  | .link joint operand rest =>
      exact joint.balanced.append (operand.balanced.append rest.balanced)

end

end Grammar

namespace Folding

open Grammar

variable {limits : Limits}

/-! ## What has been read -/

theorem LeadingSpells.balanced {level : Nat} {leading : Option Leading}
    {before : List Token}
    (hleading : LeadingSpells limits level leading before) :
    Balanced before := by
  cases hleading with
  | start => exact balanced_nil
  | joined scope joint hfits => exact scope.balanced.append joint.balanced

theorem ProgressSpells.balanced {level : Nat} {progress : Progress}
    {inside : List Token}
    (hprogress : ProgressSpells limits level progress inside) :
    Balanced inside := by
  cases hprogress with
  | beforeOperand hleading => exact hleading.balanced
  | afterOperand scope hfits => exact scope.balanced
  | afterProperty property hleading =>
      apply hleading.balanced.append
      apply balanced_of_countKind_eq_zero <;> simp [property.property]
  | afterOperator property operator hleading =>
      apply hleading.balanced.append
      apply balanced_of_countKind_eq_zero <;>
        simp [property.property, operator.property]

theorem EnclosingSpells.closesOpened {enclosing : List Enclosing}
    {around : List Token}
    (henclosing : EnclosingSpells limits enclosing around) :
    ClosesOpened around := by
  induction henclosing with
  | top => exact balanced_nil.closesOpened
  | opened opening henclosing hleading hroom ih =>
      apply (ih.append hleading.balanced.closesOpened).append
      apply closesOpened_of_countKind_eq_zero
      simp [opening.property]

theorem closesOpened_of_run {tokens : List Token} {state : State}
    (hrun : run limits {} tokens = .ok state) : ClosesOpened tokens := by
  rcases (spells_start limits).run hrun with
    ⟨around, inside, htokens, henclosing, hprogress⟩
  rw [← List.nil_append tokens, htokens]
  exact henclosing.closesOpened.append hprogress.balanced.closesOpened

theorem balanced_of_run {tokens : List Token} {state : State}
    (hrun : run limits {} tokens = .ok state) (htop : state.enclosing = []) :
    Balanced tokens := by
  rcases (spells_start limits).run hrun with
    ⟨around, inside, htokens, henclosing, hprogress⟩
  rw [htop] at henclosing
  cases henclosing
  rw [← List.nil_append tokens, htokens]
  exact hprogress.balanced

/-- The tokens up to the innermost open bracket, and those after it. -/
theorem exists_innermost_of_run {tokens : List Token} {state : State}
    (hrun : run limits {} tokens = .ok state) {innermost : Enclosing}
    {outer : List Enclosing} (hopen : state.enclosing = innermost :: outer) :
    ∃ before inside, ∃ opening : TokenOf .openBracket,
      tokens = before ++ opening.val :: inside ∧
        opening.val.span.start = innermost.bracket ∧ Balanced inside := by
  rcases (spells_start limits).run hrun with
    ⟨around, inside, htokens, henclosing, hprogress⟩
  rw [hopen] at henclosing
  rcases henclosing.exists_opening with ⟨before, opening, rfl, hbracket⟩
  refine ⟨before, inside, opening, ?_, hbracket, hprogress.balanced⟩
  rw [← List.nil_append tokens, htokens, List.append_assoc]
  rfl

/-! ## Errors at the end of the tokens -/

theorem exists_innermost_of_finish {state : State} {stop position : Nat}
    (hfinish : finish state stop = .error (.unmatchedOpening position)) :
    ∃ innermost outer,
      state.enclosing = innermost :: outer ∧ innermost.bracket = position := by
  rcases state with ⟨enclosing, progress⟩
  unfold finish at hfinish
  split at hfinish <;> simp_all

theorem finish_ne_unmatchedClosing (state : State) (stop position : Nat) :
    finish state stop ≠ .error (.unmatchedClosing position) := by
  unfold finish
  split <;> simp

/-! ## The bracket of an error -/

theorem balanced_of_ofTokens {tokens : List Token} {tree : Expr}
    (hparse : Expr.ofTokens limits tokens = .ok tree) : Balanced tokens := by
  rcases exists_scope_of_ofTokens hparse with ⟨scope, htokens, -, -⟩
  rw [← htokens]
  exact scope.balanced

theorem exists_closing_of_ofTokens {tokens : List Token} {position : Nat}
    (herror :
      Expr.ofTokens limits tokens = .error (.unmatchedClosing position)) :
    ∃ before closing after, tokens = before ++ closing :: after ∧
      closing.kind = .closeBracket ∧ closing.span.start = position ∧
        Balanced before := by
  rcases refuses_or_finish_of_ofTokens herror with
    ⟨before, closing, after, state, htokens, hbefore, hrefuses⟩ |
      ⟨state, -, hfinish⟩
  · cases hrefuses with
    | unmatched hkind htop =>
        exact
          ⟨before, closing, after, htokens, hkind, rfl,
            balanced_of_run hbefore htop⟩
  · exact absurd hfinish (finish_ne_unmatchedClosing _ _ _)

theorem exists_opening_of_ofTokens {tokens : List Token} {position : Nat}
    (herror :
      Expr.ofTokens limits tokens = .error (.unmatchedOpening position)) :
    ClosesOpened tokens ∧
      ∃ before inside, ∃ opening : TokenOf .openBracket,
        tokens = before ++ opening.val :: inside ∧
          opening.val.span.start = position ∧ Balanced inside := by
  rcases refuses_or_finish_of_ofTokens herror with
    ⟨_, _, _, _, -, -, hrefuses⟩ | ⟨state, hrun, hfinish⟩
  · cases hrefuses
  · rcases exists_innermost_of_finish hfinish with
      ⟨innermost, outer, hopen, hposition⟩
    rw [← hposition]
    exact ⟨closesOpened_of_run hrun, exists_innermost_of_run hrun hopen⟩

/-- Accepted tokens are balanced. A closing bracket is blamed if the tokens
before it are balanced, so it is the first one too many. An opening bracket is
blamed if the tokens after it are balanced, so it is the innermost one that is
open at the end, and then no closing bracket is one too many. -/
theorem ofTokens_blames_bracket (limits : Limits) (tokens : List Token) :
    (∀ tree, Expr.ofTokens limits tokens = .ok tree → Balanced tokens) ∧
    (∀ position,
      Expr.ofTokens limits tokens = .error (.unmatchedClosing position) →
        ∃ index token, tokens[index]? = some token ∧
          token.kind = .closeBracket ∧ token.span.start = position ∧
            Balanced (tokens.take index)) ∧
    ∀ position,
      Expr.ofTokens limits tokens = .error (.unmatchedOpening position) →
        ClosesOpened tokens ∧ ∃ index token, tokens[index]? = some token ∧
          token.kind = .openBracket ∧ token.span.start = position ∧
            Balanced (tokens.drop (index + 1)) := by
  refine ⟨fun tree => balanced_of_ofTokens, ?_, ?_⟩
  · intro position herror
    rcases exists_closing_of_ofTokens herror with
      ⟨before, closing, after, htokens, hkind, hstart, hbalanced⟩
    refine ⟨before.length, closing, ?_, hkind, hstart, ?_⟩
    · simp [htokens]
    · simpa [htokens] using hbalanced
  · intro position herror
    rcases exists_opening_of_ofTokens herror with
      ⟨hcloses, before, inside, opening, htokens, hstart, hbalanced⟩
    have hdrop : tokens.drop (before.length + 1) = inside := by
      rw [htokens, List.drop_append]
      simp
    refine
      ⟨hcloses, before.length, opening.val, ?_, opening.property, hstart, ?_⟩
    · simp [htokens]
    · rw [hdrop]
      exact hbalanced

/-- In brackets that match, one bracket more is blamed, and one bracket less
leaves the outer one open. -/
theorem ofTokens_blames_bracket_doubleBrackets :
    let closed := doubleBrackets ++ [⟨.closeBracket, ")", ⟨12, 13⟩⟩]
    let cut := doubleBrackets.dropLast
    Balanced doubleBrackets ∧
      Expr.ofTokens ⟨2, 1⟩ closed = .error (.unmatchedClosing 12) ∧
      (∃ index token, closed[index]? = some token ∧
        token.kind = .closeBracket ∧ token.span.start = 12 ∧
          Balanced (closed.take index)) ∧
      Expr.ofTokens ⟨2, 1⟩ cut = .error (.unmatchedOpening 0) ∧
      ∃ index token, cut[index]? = some token ∧ token.kind = .openBracket ∧
        token.span.start = 0 ∧ Balanced (cut.drop (index + 1)) := by
  intro closed cut
  have hclosed : Expr.ofTokens ⟨2, 1⟩ closed =
      .error (.unmatchedClosing 12) := by
    rfl
  have hcut : Expr.ofTokens ⟨2, 1⟩ cut = .error (.unmatchedOpening 0) := by
    rfl
  rcases ofTokens_blames_bracket ⟨2, 1⟩ doubleBrackets with ⟨hbalanced, -, -⟩
  rcases ofTokens_blames_bracket ⟨2, 1⟩ closed with ⟨-, hclosing, -⟩
  rcases ofTokens_blames_bracket ⟨2, 1⟩ cut with ⟨-, -, hopening⟩
  exact
    ⟨hbalanced _ rfl, hclosed, hclosing 12 hclosed, hcut,
      (hopening 0 hcut).2⟩

end Folding

end RecordFilter

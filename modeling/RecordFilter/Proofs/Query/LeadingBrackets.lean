import RecordFilter.Proofs.Query.Recognition
import RecordFilter.Proofs.Query.Rewording
import RecordFilter.Proofs.Query.RoundTrip

/-!
# Brackets around a leading part

A scope is folded from left to right, so brackets around its first operands
change nothing but the nesting. The derivation of a query that goes on from a
shorter one is the derivation of the shorter one with further operands; putting
the shorter one in brackets turns it into the first operand of a new scope with
the same operands after it.
-/

namespace RecordFilter

namespace Grammar

/-! ## Going on with further operands -/

/-- A chain of which the tokens start with those of another one goes on from
it. -/
theorem Chain.exists_append_of_tokens (chain other : Chain) {after : List Token}
    (htokens : chain.tokens ++ after = other.tokens) :
    ∃ more, other = chain.append more ∧ more.tokens = after := by
  match chain, other with
  | .done, other => exact ⟨other, rfl, htokens.symm⟩
  | .link joint operand rest, .done =>
      simp [Chain.tokens] at htokens
  | .link joint operand rest, .link otherJoint otherOperand otherRest =>
      simp only [Chain.tokens, List.cons_append, List.append_assoc,
        List.cons.injEq] at htokens
      rcases htokens with ⟨hjoint, htail⟩
      rcases operand.eq_of_tokens_append otherOperand htail with ⟨hsame, hrest⟩
      rcases rest.exists_append_of_tokens otherRest hrest with
        ⟨more, hmore, hafter⟩
      refine ⟨more, ?_, hafter⟩
      rw [Joint.ext_token hjoint, hsame, hmore]
      rfl

theorem Scope.exists_append_of_tokens (scope other : Scope) {after : List Token}
    (htokens : scope.tokens ++ after = other.tokens) :
    ∃ more, other = scope.append more ∧ more.tokens = after := by
  rcases scope with ⟨first, rest⟩
  rcases other with ⟨otherFirst, otherRest⟩
  simp only [Scope.tokens, List.append_assoc] at htokens
  rcases first.eq_of_tokens_append otherFirst htokens with ⟨hsame, hrest⟩
  rcases rest.exists_append_of_tokens otherRest hrest with
    ⟨more, hmore, hafter⟩
  refine ⟨more, ?_, hafter⟩
  rw [hsame, hmore]
  rfl

/-! ## A scope as the first operand of another -/

/-- The scope in brackets, with further operands after it. -/
def Scope.enclose (opening : TokenOf .openBracket) (scope : Scope)
    (closing : TokenOf .closeBracket) (more : Chain) : Scope :=
  .mk (.bracketed opening scope closing) more

section Enclose

variable (opening : TokenOf .openBracket) (scope : Scope)
variable (closing : TokenOf .closeBracket) (more : Chain)

theorem Scope.tokens_enclose :
    (scope.enclose opening closing more).tokens =
      opening.val :: (scope.tokens ++ closing.val :: more.tokens) := by
  simp [enclose, tokens, Operand.tokens]

theorem Scope.nesting_enclose :
    (scope.enclose opening closing more).nesting =
      max (scope.nesting + 1) more.nesting := by
  simp [enclose, nesting, Operand.nesting]

theorem Scope.tree_enclose :
    (scope.enclose opening closing more).tree = (scope.append more).tree := by
  simp [enclose, tree, Operand.tree]

end Enclose

end Grammar

/-- The limits with room for one bracket more. -/
def Limits.deepened (limits : Limits) : Limits :=
  { limits with nesting := limits.nesting + 1 }

namespace Folding

open Grammar

variable {limits : Limits} {front : List Token} {first whole : Expr}

theorem ofTokens_enclose (hfront : Expr.ofTokens limits front = .ok first)
    (opening : TokenOf .openBracket) (closing : TokenOf .closeBracket)
    {more : List Token}
    (hwhole : Expr.ofTokens limits (front ++ more) = .ok whole) :
    Expr.ofTokens limits.deepened
      (opening.val :: (front ++ closing.val :: more)) = .ok whole := by
  rcases exists_scope_of_ofTokens hfront with ⟨scope, hscope, -, -⟩
  rcases exists_scope_of_ofTokens hwhole with ⟨outer, houter, hfits, htree⟩
  have hsplit : scope.tokens ++ more = outer.tokens := by
    rw [hscope, houter]
  rcases scope.exists_append_of_tokens outer hsplit with ⟨chain, hgrown, hmore⟩
  have henclosed :
      Fits limits.deepened 0 (scope.enclose opening closing chain) :=
    { nesting := by
        have hnesting := hfits.nesting
        rw [hgrown, Scope.nesting_append] at hnesting
        rw [Scope.nesting_enclose]
        simp only [Limits.deepened]
        omega
      depth := by
        rw [Scope.tree_enclose, ← hgrown]
        exact hfits.depth }
  have hparse := ofTokens_scope henclosed
  rw [Scope.tokens_enclose, Scope.tree_enclose, hscope, hmore, ← hgrown, htree]
    at hparse
  exact hparse

theorem ofTokens_of_enclosed (hfront : Expr.ofTokens limits front = .ok first)
    (opening : TokenOf .openBracket) (closing : TokenOf .closeBracket)
    {more : List Token}
    (hwhole : Expr.ofTokens limits
      (opening.val :: (front ++ closing.val :: more)) = .ok whole) :
    Expr.ofTokens limits (front ++ more) = .ok whole := by
  rcases exists_scope_of_ofTokens hfront with ⟨scope, hscope, -, -⟩
  rcases exists_scope_of_ofTokens hwhole with
    ⟨⟨operand, chain⟩, houter, hfits, htree⟩
  -- The first operand of the whole is the bracketed part, and only that.
  have hsplit :
      (Operand.bracketed opening scope closing).tokens ++ more =
        operand.tokens ++ chain.tokens := by
    rw [Scope.tokens] at houter
    rw [houter, Operand.tokens, hscope]
    simp
  rcases Operand.eq_of_tokens_append _ operand hsplit with ⟨hoperand, hmore⟩
  have hsame :
      Scope.mk operand chain = scope.enclose opening closing chain := by
    rw [← hoperand, Scope.enclose]
  rw [hsame] at hfits htree
  have hgrown : Fits limits 0 (scope.append chain) :=
    { nesting := by
        have hnesting := hfits.nesting
        rw [Scope.nesting_enclose] at hnesting
        rw [Scope.nesting_append]
        omega
      depth := by
        rw [← Scope.tree_enclose opening scope closing]
        exact hfits.depth }
  have hparse := ofTokens_scope hgrown
  rw [Scope.tokens_append, ← Scope.tree_enclose opening scope closing, hscope,
    ← hmore, htree] at hparse
  exact hparse

end Folding

/-! ## Tokens in other places -/

/-- The tokens are the same, wherever they stand. -/
def SameWords (tokens others : List Token) : Prop :=
  tokens.map Token.eraseSpan = others.map Token.eraseSpan

theorem SameWords.symm {tokens others : List Token}
    (hsame : SameWords tokens others) : SameWords others tokens :=
  Eq.symm hsame

/-- The tokens are read as the expression, wherever its tokens stand. -/
def Expr.IsReadFrom (limits : Limits) (tokens : List Token) (expr : Expr) :
    Prop :=
  ∃ other, ofTokens limits tokens = .ok other ∧
    other.eraseSpans = expr.eraseSpans

theorem Expr.reword_same (expr : Expr) :
    expr.reword (fun _ text => text) = expr.eraseSpans := by
  induction expr with
  | comparison property operator value => rfl
  | logical connective left right ihLeft ihRight =>
      simp only [reword, eraseSpans, ihLeft, ihRight]

theorem SameWords.isReadFrom {limits : Limits} {tokens others : List Token}
    (hsame : SameWords tokens others) {expr : Expr}
    (hparse : Expr.ofTokens limits others = .ok expr) :
    expr.IsReadFrom limits tokens := by
  rcases Expr.ofTokens_of_reword_eq (fun _ text => text) (fun _ => rfl) limits
    hsame with ⟨other, original, hother, horiginal, hwords⟩ |
      ⟨_, error, -, herror, -⟩
  · rw [hparse] at horiginal
    refine ⟨other, hother, ?_⟩
    rw [Except.ok.inj horiginal, ← Expr.reword_same, hwords, Expr.reword_same]
  · rw [hparse] at herror
    contradiction

/-- Brackets around a leading part of a scope are redundant. Around the whole of
some tokens they leave the expression as it is, if there is room for one bracket
more; so they do around tokens after which a connective and further tokens
follow. Brackets that are there may be taken away within the same limits. -/
theorem Expr.ofTokens_leading_brackets (limits : Limits) {front : List Token}
    {first : Expr} (hfront : ofTokens limits front = .ok first)
    (opening : Grammar.TokenOf .openBracket)
    (closing : Grammar.TokenOf .closeBracket)
    (joint : Grammar.TokenOf .connective) (back : List Token) :
    (∀ tokens, SameWords tokens (opening.val :: (front ++ [closing.val])) →
      first.IsReadFrom limits.deepened tokens) ∧
    ∀ tokens,
      SameWords tokens
        (opening.val :: (front ++ closing.val :: joint.val :: back)) →
      (∀ whole, ofTokens limits (front ++ joint.val :: back) = .ok whole →
        whole.IsReadFrom limits.deepened tokens) ∧
      ∀ whole, ofTokens limits tokens = .ok whole →
        whole.IsReadFrom limits (front ++ joint.val :: back) := by
  refine ⟨?_, ?_⟩
  · intro tokens hsame
    have hall : ofTokens limits (front ++ []) = .ok first := by
      rw [List.append_nil]
      exact hfront
    exact
      hsame.isReadFrom (Folding.ofTokens_enclose hfront opening closing hall)
  · intro tokens hsame
    refine ⟨?_, ?_⟩
    · intro whole hwhole
      exact
        hsame.isReadFrom
          (Folding.ofTokens_enclose hfront opening closing hwhole)
    · intro whole hwhole
      rcases hsame.symm.isReadFrom hwhole with ⟨other, hother, hplaces⟩
      exact
        ⟨other, Folding.ofTokens_of_enclosed hfront opening closing hother,
          hplaces⟩

/-- The tokens of `A == '1'`, from a byte on. -/
def comparisonFrom (start : Nat) : List Token :=
  [⟨.property, "A", ⟨start, start + 1⟩⟩,
    ⟨.operator, "==", ⟨start + 2, start + 4⟩⟩,
    ⟨.value, "'1'", ⟨start + 5, start + 8⟩⟩]

/-- The expression of `A == '1' || A == '1'` is that of
`(A == '1') || A == '1'`, of which the first part needs no brackets. -/
theorem Expr.ofTokens_leading_brackets_comparison :
    let plain := comparisonFrom 0 ++ ⟨.connective, "||", ⟨9, 11⟩⟩ ::
      comparisonFrom 12
    let bracketed := ⟨.openBracket, "(", ⟨0, 1⟩⟩ :: (comparisonFrom 1 ++
      ⟨.closeBracket, ")", ⟨9, 10⟩⟩ :: ⟨.connective, "||", ⟨11, 13⟩⟩ ::
        comparisonFrom 14)
    (∃ whole, ofTokens ⟨1, 2⟩ plain = .ok whole ∧
      whole.IsReadFrom ⟨2, 2⟩ bracketed) ∧
    ∃ whole, ofTokens ⟨1, 2⟩ bracketed = .ok whole ∧
      whole.IsReadFrom ⟨1, 2⟩ plain := by
  intro plain bracketed
  have hplain : ∃ whole, ofTokens ⟨1, 2⟩ plain = .ok whole := ⟨_, rfl⟩
  have hbracketed : ∃ whole, ofTokens ⟨1, 2⟩ bracketed = .ok whole := ⟨_, rfl⟩
  have hfront : ∃ first, ofTokens ⟨1, 2⟩ (comparisonFrom 0) = .ok first :=
    ⟨_, rfl⟩
  rcases hplain with ⟨whole, hwhole⟩
  rcases hbracketed with ⟨other, hother⟩
  rcases hfront with ⟨first, hfirst⟩
  rcases ofTokens_leading_brackets ⟨1, 2⟩ hfirst
    (⟨⟨.openBracket, "(", ⟨0, 1⟩⟩, rfl⟩ : Grammar.TokenOf .openBracket)
    (⟨⟨.closeBracket, ")", ⟨9, 10⟩⟩, rfl⟩ : Grammar.TokenOf .closeBracket)
    (⟨⟨.connective, "||", ⟨9, 11⟩⟩, rfl⟩ : Grammar.TokenOf .connective)
    (comparisonFrom 12) with ⟨-, hmoved⟩
  rcases hmoved bracketed rfl with ⟨hadd, hdrop⟩
  exact ⟨⟨whole, hwhole, hadd whole hwhole⟩, other, hother, hdrop other hother⟩

end RecordFilter

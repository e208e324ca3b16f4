import RecordFilter.Proofs.Outcome
import RecordFilter.Query.Folding

/-!
# Parsing looks at kinds and connectives

The parser asks for the kinds of tokens and for the texts of connectives; all
other texts are only copied into the expression or the error. So if the tokens
are reworded and their places forgotten, the parser does the same as before with
the words changed. One step on reworded tokens is the reworded step, and the run
follows by induction.
-/

namespace RecordFilter

variable (f : TokenKind → String → String)

/-- The token in other words and without its place. -/
def Token.reword (token : Token) : Token :=
  ⟨token.kind, f token.kind token.text, ⟨0, 0⟩⟩

def Expr.reword : Expr → Expr
  | .comparison property operator value =>
      .comparison (property.reword f) (operator.reword f) (value.reword f)
  | .logical connective left right =>
      .logical connective left.reword right.reword

def OrderFault.reword : OrderFault → OrderFault
  | .connectiveExpected before => .connectiveExpected (before.reword f)
  | .operandExpected before => .operandExpected (before.reword f)
  | .unknownConnective token => .unknownConnective (token.reword f)
  | .unexpected token => .unexpected (token.reword f)
  | .wrongKind expected after found =>
      .wrongKind expected (after.reword f) (found.map (·.reword f))
  | .operandMissing => .operandMissing

/-- The same error about reworded tokens at no place. -/
def ParseError.reword : ParseError → ParseError
  | .emptyExpression _ => .emptyExpression 0
  | .wrongOrder fault _ => .wrongOrder (fault.reword f) 0
  | .unmatchedClosing _ => .unmatchedClosing 0
  | .unmatchedOpening _ => .unmatchedOpening 0
  | .nestingTooDeep limit _ => .nestingTooDeep limit 0
  | .treeTooDeep limit _ => .treeTooDeep limit 0

namespace Folding

def Leading.reword (leading : Leading) : Leading :=
  { leading with tree := leading.tree.reword f, position := 0 }

def Progress.reword : Progress → Progress
  | .beforeOperand leading => .beforeOperand (leading.map (·.reword f))
  | .afterProperty leading property =>
      .afterProperty (leading.map (·.reword f)) (property.reword f)
  | .afterOperator leading property operator =>
      .afterOperator (leading.map (·.reword f)) (property.reword f)
        (operator.reword f)
  | .afterOperand tree depth => .afterOperand (tree.reword f) depth

def Enclosing.reword (enclosing : Enclosing) : Enclosing :=
  ⟨enclosing.leading.map (·.reword f), 0⟩

def State.reword (state : State) : State :=
  ⟨state.enclosing.map (·.reword f), state.progress.reword f⟩

/-! ## One step -/

section Steps

open Outcome

variable {f}

theorem complete_reword (limits : Limits) (leading : Option Leading)
    (tree : Expr) (depth position : Nat) :
    complete limits (leading.map (·.reword f)) (tree.reword f) depth 0 =
      mapBoth (Progress.reword f) (ParseError.reword f)
        (complete limits leading tree depth position) := by
  cases leading with
  | none =>
      by_cases hdeep : limits.treeDepth < depth
      · simp [complete, hdeep, mapBoth, ParseError.reword]
      · simp [complete, hdeep, mapBoth, Progress.reword]
  | some left =>
      by_cases hdeep : limits.treeDepth < 1 + max left.depth depth
      · simp [complete, hdeep, mapBoth, ParseError.reword, Leading.reword]
      · simp [complete, hdeep, mapBoth, Progress.reword, Leading.reword,
          Expr.reword]

theorem stepBeforeOperand_reword (limits : Limits) (enclosing : List Enclosing)
    (leading : Option Leading) (token : Token) :
    stepBeforeOperand limits (enclosing.map (·.reword f))
        (leading.map (·.reword f)) (token.reword f) =
      mapBoth (State.reword f) (ParseError.reword f)
        (stepBeforeOperand limits enclosing leading token) := by
  obtain ⟨kind, text, span⟩ := token
  cases kind with
  | property => rfl
  | connective => rfl
  | operator | value => rfl
  | openBracket =>
      by_cases hfull : limits.nesting ≤ enclosing.length
      · simp [stepBeforeOperand, Token.reword, hfull, mapBoth,
          ParseError.reword]
      · simp [stepBeforeOperand, Token.reword, hfull, mapBoth, State.reword,
          Enclosing.reword, Progress.reword]
  | closeBracket =>
      cases enclosing with
      | nil => rfl
      | cons outer rest =>
          cases leading with
          | none => rfl
          | some left => rfl

theorem stepAfterOperand_reword
    (hconnective : ∀ text, f .connective text = text) (limits : Limits)
    (enclosing : List Enclosing) (tree : Expr) (depth : Nat) (token : Token) :
    stepAfterOperand limits (enclosing.map (·.reword f)) (tree.reword f) depth
        (token.reword f) =
      mapBoth (State.reword f) (ParseError.reword f)
        (stepAfterOperand limits enclosing tree depth token) := by
  obtain ⟨kind, text, span⟩ := token
  cases kind with
  | property | openBracket => rfl
  | operator | value => rfl
  | connective =>
      simp only [stepAfterOperand, Token.reword, hconnective]
      cases Connective.ofLexeme? text with
      | none =>
          simp [mapBoth, ParseError.reword, OrderFault.reword, Token.reword,
            hconnective]
      | some connective => rfl
  | closeBracket =>
      cases enclosing with
      | nil => rfl
      | cons outer rest =>
          have hcomplete := complete_reword (f := f) limits outer.leading tree
            depth outer.bracket
          simp only [stepAfterOperand, Token.reword, List.map_cons,
            Enclosing.reword, hcomplete]
          cases complete limits outer.leading tree depth outer.bracket with
          | error error => rfl
          | ok progress => rfl

theorem step_reword (hconnective : ∀ text, f .connective text = text)
    (limits : Limits) (state : State) (token : Token) :
    step limits (state.reword f) (token.reword f) =
      mapBoth (State.reword f) (ParseError.reword f)
        (step limits state token) := by
  obtain ⟨enclosing, progress⟩ := state
  cases progress with
  | beforeOperand leading =>
      exact stepBeforeOperand_reword limits enclosing leading token
  | afterOperand tree depth =>
      exact
        stepAfterOperand_reword hconnective limits enclosing tree depth token
  | afterProperty leading property =>
      by_cases hkind : token.kind = .operator
      · simp [step, State.reword, Progress.reword, Token.reword, hkind, mapBoth]
      · simp [step, State.reword, Progress.reword, Token.reword, hkind, mapBoth,
          ParseError.reword, OrderFault.reword]
  | afterOperator leading property operator =>
      by_cases hkind : token.kind = .value
      · have hcomplete := complete_reword (f := f) limits leading
          (.comparison property operator token) 1 property.span.start
        have hstart : (property.reword f).span.start = 0 := rfl
        have hvalue : (token.reword f).kind = .value := hkind
        simp only [step, State.reword, Progress.reword, hkind, hvalue, if_true]
        rw [hstart]
        simp only [Expr.reword] at hcomplete
        rw [hcomplete]
        cases complete limits leading (.comparison property operator token) 1
            property.span.start with
        | error error => rfl
        | ok progress => rfl
      · simp [step, State.reword, Progress.reword, Token.reword, hkind, mapBoth,
          ParseError.reword, OrderFault.reword]

theorem finish_reword (state : State) (stop : Nat) :
    finish (state.reword f) 0 =
      mapBoth (Expr.reword f) (ParseError.reword f) (finish state stop) := by
  obtain ⟨enclosing, progress⟩ := state
  cases progress with
  | afterProperty leading property => cases enclosing <;> rfl
  | afterOperator leading property operator => cases enclosing <;> rfl
  | beforeOperand leading =>
      cases enclosing with
      | cons innermost rest => rfl
      | nil =>
          cases leading with
          | none => rfl
          | some left => rfl
  | afterOperand tree depth => cases enclosing <;> rfl

end Steps

theorem stopOf_map_reword (tokens : List Token) :
    stopOf (tokens.map (·.reword f)) = 0 := by
  rw [stopOf, List.getLast?_map]
  cases tokens.getLast? with
  | none => rfl
  | some token => rfl

end Folding

/-! ## The whole run -/

/-- What the parser makes of reworded tokens is what it makes of the tokens, in
other words. -/
theorem Expr.ofTokens_map_reword
    (hconnective : ∀ text, f .connective text = text) (limits : Limits)
    (tokens : List Token) :
    ofTokens limits (tokens.map (·.reword f)) =
      Outcome.mapBoth (Expr.reword f) (ParseError.reword f)
        (ofTokens limits tokens) := by
  have hstart : (Folding.State.reword f {}) = {} := rfl
  have hrun := Outcome.foldlM_map_eq_mapBoth
    (Folding.step_reword hconnective limits) tokens {}
  rw [hstart] at hrun
  rw [ofTokens, ofTokens, hrun, Folding.stopOf_map_reword]
  cases tokens.foldlM (Folding.step limits) {} with
  | error error => rfl
  | ok state => exact Folding.finish_reword state _

/-- Tokens that are the same in other words are read alike. -/
theorem Expr.ofTokens_of_reword_eq
    (hconnective : ∀ text, f .connective text = text) (limits : Limits)
    {tokens others : List Token}
    (hsame : tokens.map (·.reword f) = others.map (·.reword f)) :
    (∃ expr otherExpr, ofTokens limits tokens = .ok expr ∧
      ofTokens limits others = .ok otherExpr ∧
      expr.reword f = otherExpr.reword f) ∨
    ∃ error otherError, ofTokens limits tokens = .error error ∧
      ofTokens limits others = .error otherError ∧
      error.reword f = otherError.reword f := by
  apply Outcome.both_of_mapBoth_eq
  rw [← ofTokens_map_reword f hconnective, ← ofTokens_map_reword f hconnective,
    hsame]

end RecordFilter

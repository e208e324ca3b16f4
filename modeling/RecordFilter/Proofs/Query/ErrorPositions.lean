import RecordFilter.Proofs.Query.Limits

/-!
# Where parsing fails

An error of the parser is raised at the token that was taken last, at a position
that the state has kept from an earlier token, or at the end of the tokens. What
a state keeps are the starts of tokens: those of the connectives whose right
operands are still to come, of the brackets that are open and of the property
of the comparison under way. A step adds the start of its token and nothing
else, so every position can be traced back to one of the tokens.
-/

namespace RecordFilter

namespace Folding

/-! ## The positions that a state keeps -/

def Leading.positions (leading : Option Leading) : List Nat :=
  leading.toList.map Leading.position

def Progress.positions : Progress → List Nat
  | .beforeOperand leading => Leading.positions leading
  | .afterProperty leading property =>
      property.span.start :: Leading.positions leading
  | .afterOperator leading property _ =>
      property.span.start :: Leading.positions leading
  | .afterOperand _ _ => []

def Enclosing.positions (outer : Enclosing) : List Nat :=
  outer.bracket :: Leading.positions outer.leading

def State.positions (state : State) : List Nat :=
  state.progress.positions ++ state.enclosing.flatMap Enclosing.positions

/-- The next state keeps none but the given positions, or the error is at one of
them. -/
def PointsWithin (positions : List Nat) : Except ParseError State → Prop
  | .ok next => next.positions ⊆ positions
  | .error error => error.position ∈ positions

theorem PointsWithin.mono {positions more : List Nat}
    {result : Except ParseError State} (hpoints : PointsWithin positions result)
    (hmore : positions ⊆ more) : PointsWithin more result := by
  cases result with
  | ok next => exact List.Subset.trans hpoints hmore
  | error error => exact hmore hpoints

section Steps

variable {limits : Limits}

theorem pointsWithin_complete {positions : List Nat}
    {enclosing : List Enclosing} {position : Nat}
    (henclosing : enclosing.flatMap Enclosing.positions ⊆ positions)
    (hposition : position ∈ positions) (leading : Option Leading) (tree : Expr)
    (depth : Nat) :
    PointsWithin positions
      ((complete limits leading tree depth position).map (⟨enclosing, ·⟩)) := by
  unfold complete
  split
  split
  · exact hposition
  · exact henclosing

theorem pointsWithin_stepBeforeOperand (enclosing : List Enclosing)
    (leading : Option Leading) (token : Token) :
    PointsWithin
      (token.span.start ::
        State.positions ⟨enclosing, .beforeOperand leading⟩)
      (stepBeforeOperand limits enclosing leading token) := by
  unfold stepBeforeOperand
  cases token.kind with
  | property => exact List.Subset.refl _
  | connective | operator | value => exact List.mem_cons_self
  | openBracket =>
      simp only
      split
      · exact List.mem_cons_self
      · exact List.Subset.refl _
  | closeBracket =>
      cases enclosing with
      | nil => exact List.mem_cons_self
      | cons outer rest =>
          cases leading with
          | none => exact List.mem_cons_self
          | some left => exact .tail _ (.head _)

theorem pointsWithin_stepAfterOperand (enclosing : List Enclosing)
    (tree : Expr) (depth : Nat) (token : Token) :
    PointsWithin
      (token.span.start ::
        State.positions ⟨enclosing, .afterOperand tree depth⟩)
      (stepAfterOperand limits enclosing tree depth token) := by
  unfold stepAfterOperand
  cases token.kind with
  | property | openBracket | operator | value => exact List.mem_cons_self
  | connective =>
      simp only
      split
      · exact List.Subset.refl _
      · exact List.mem_cons_self
  | closeBracket =>
      cases enclosing with
      | nil => exact List.mem_cons_self
      | cons outer rest =>
          apply pointsWithin_complete
          · intro position hposition
            exact .tail _ (.tail _ (List.mem_append_right _ hposition))
          · exact .tail _ (.head _)

variable (limits)

/-- A step keeps the start of its token and what was kept before. -/
theorem pointsWithin_step (state : State) (token : Token) :
    PointsWithin (token.span.start :: state.positions)
      (step limits state token) := by
  rcases state with ⟨enclosing, progress⟩
  cases progress with
  | beforeOperand leading =>
      exact pointsWithin_stepBeforeOperand enclosing leading token
  | afterOperand tree depth =>
      exact pointsWithin_stepAfterOperand enclosing tree depth token
  | afterProperty leading property =>
      simp only [step]
      split
      · exact List.subset_cons_self _ _
      · exact List.mem_cons_self
  | afterOperator leading property operator =>
      simp only [step]
      split
      · apply pointsWithin_complete
        · intro position hposition
          exact .tail _ (List.mem_append_right _ hposition)
        · exact .tail _ (.head _)
      · exact List.mem_cons_self

theorem subset_after (token : Token) (rest : List Token) (state : State) :
    token.span.start :: state.positions ⊆
      (token :: rest).map (·.span.start) ++ state.positions := by
  rw [List.map_cons, List.cons_append]
  exact List.cons_subset_cons _ (List.subset_append_right _ _)

theorem pointsWithin_run (state : State) (tokens : List Token) :
    PointsWithin (tokens.map (·.span.start) ++ state.positions)
      (run limits state tokens) := by
  induction tokens generalizing state with
  | nil => exact List.Subset.refl _
  | cons token rest ih =>
      have hstep := pointsWithin_step limits state token
      cases hnext : step limits state token with
      | error error =>
          rw [hnext] at hstep
          rw [run_cons_of_error hnext]
          exact hstep.mono (subset_after token rest state)
      | ok next =>
          rw [hnext] at hstep
          rw [run_cons_of_step hnext]
          apply (ih next).mono
          apply List.append_subset.mpr
          constructor
          · exact List.subset_cons_of_subset _ (List.subset_append_left _ _)
          · exact List.Subset.trans hstep (subset_after token rest state)

theorem position_finish {state : State} {stop : Nat} {error : ParseError}
    (hfinish : finish state stop = .error error) :
    error.position = stop ∨ error.position ∈ state.positions := by
  rcases state with ⟨enclosing, progress⟩
  cases progress with
  | afterProperty leading property =>
      rw [← Except.error.inj hfinish]
      exact .inl rfl
  | afterOperator leading property operator =>
      rw [← Except.error.inj hfinish]
      exact .inl rfl
  | beforeOperand leading =>
      cases enclosing with
      | cons innermost outer =>
          rw [← Except.error.inj hfinish]
          exact .inr (List.mem_append_right _ List.mem_cons_self)
      | nil =>
          cases leading with
          | none =>
              rw [← Except.error.inj hfinish]
              exact .inl rfl
          | some left =>
              rw [← Except.error.inj hfinish]
              exact .inr List.mem_cons_self
  | afterOperand tree depth =>
      cases enclosing with
      | nil => contradiction
      | cons innermost outer =>
          rw [← Except.error.inj hfinish]
          exact .inr List.mem_cons_self

end Steps

end Folding

/-! ## Places among the tokens -/

/-- The position is where a token starts, where the last token ends, or the
start of a query without tokens. -/
inductive IsTokenPlace (tokens : List Token) : Nat → Prop
  | start {token : Token} (htoken : token ∈ tokens) :
    IsTokenPlace tokens token.span.start
  | stop {token : Token} (hlast : tokens.getLast? = some token) :
    IsTokenPlace tokens token.span.stop
  | origin (hnone : tokens = []) : IsTokenPlace tokens 0

theorem Folding.isTokenPlace_stopOf (tokens : List Token) :
    IsTokenPlace tokens (stopOf tokens) := by
  unfold stopOf
  cases hlast : tokens.getLast? with
  | none => exact .origin (List.getLast?_eq_none_iff.mp hlast)
  | some token => exact .stop hlast

theorem Expr.isTokenPlace_of_ofTokens {limits : Limits} {tokens : List Token}
    {error : ParseError} (herror : ofTokens limits tokens = .error error) :
    IsTokenPlace tokens error.position := by
  have hstarts : ∀ position ∈ tokens.map (·.span.start),
      IsTokenPlace tokens position := by
    intro position hposition
    rcases List.mem_map.mp hposition with ⟨token, htoken, rfl⟩
    exact .start htoken
  have hrun := Folding.pointsWithin_run limits {} tokens
  have hinitial : Folding.State.positions {} = [] := rfl
  rw [hinitial, List.append_nil] at hrun
  rw [Folding.ofTokens_eq_run, Outcome.bind_eq_error_iff] at herror
  rcases herror with hrefused | ⟨state, hread, hfinish⟩
  · rw [hrefused] at hrun
    exact hstarts _ hrun
  · rw [hread] at hrun
    rcases Folding.position_finish hfinish with hstop | hkept
    · rw [hstop]
      exact Folding.isTokenPlace_stopOf tokens
    · exact hstarts _ (hrun hkept)

end RecordFilter

import RecordFilter.Query.Expr

/-!
# From tokens to an expression

Tokens are taken one at a time. A scope is the whole query or what stands
between a pair of brackets; the operands of a scope are folded strictly from
left to right as they are completed, and a bracketed scope is one operand of the
scope around it. Both the nesting of brackets and the depth of the folded tree
are bounded, since all later work walks the tree.
-/

namespace RecordFilter

/-- Why a token does not fit where it stands. -/
inductive OrderFault where
  | connectiveExpected (before : Token)
  | operandExpected (before : Token)
  | unknownConnective (token : Token)
  | unexpected (token : Token)
  /-- A comparison goes on with another kind than the one it needs; no token is
  the end of the query. -/
  | wrongKind (expected : TokenKind) (after : Token) (found : Option Token)
  | operandMissing
  deriving DecidableEq

def OrderFault.message : OrderFault → String
  | .connectiveExpected before =>
    "expected a logical operator before " ++ before.describe
  | .operandExpected before =>
    "expected a comparison or '(' before " ++ before.describe
  | .unknownConnective token => "unknown logical operator " ++ token.describe
  | .unexpected token => "unexpected " ++ token.describe
  | .wrongKind expected after found =>
    "expected " ++ expected.describe ++ " after " ++ after.describe ++
      ", got " ++
      (match found with
      | some token => token.describe
      | none => "end of input")
  | .operandMissing => "logical operator is missing its right operand"

inductive ParseError where
  | emptyExpression (position : Nat)
  | wrongOrder (fault : OrderFault) (position : Nat)
  | unmatchedClosing (position : Nat)
  | unmatchedOpening (position : Nat)
  | nestingTooDeep (limit position : Nat)
  | treeTooDeep (limit position : Nat)
  deriving DecidableEq

namespace ParseError

/-- The byte of the query that the error is about. -/
def position : ParseError → Nat
  | .emptyExpression position
  | .wrongOrder _ position
  | .unmatchedClosing position
  | .unmatchedOpening position
  | .nestingTooDeep _ position
  | .treeTooDeep _ position => position

def message : ParseError → String
  | .emptyExpression position =>
    "Empty expression at position " ++ toString position
  | .wrongOrder fault position =>
    "Wrong order of tokens at position " ++ toString position ++ ": " ++
      fault.message
  | .unmatchedClosing position =>
    "No matching start bracket for ')' at position " ++ toString position
  | .unmatchedOpening position =>
    "No matching ending bracket for '(' at position " ++ toString position
  | .nestingTooDeep limit position =>
    "Brackets nested deeper than " ++ toString limit ++ " at position " ++
      toString position
  | .treeTooDeep limit position =>
    "Expression nests more than " ++ toString limit ++ " levels at position " ++
      toString position

end ParseError

/-- How deep an expression may be. -/
structure Limits where
  /-- Brackets within brackets. -/
  nesting : Nat := 64
  /-- Levels of the tree; a flat chain of `n` comparisons has `n`. -/
  treeDepth : Nat := 256
  deriving DecidableEq

namespace Folding

/-- The left part of a scope whose next operand is still to come. -/
structure Leading where
  tree : Expr
  depth : Nat
  connective : Connective
  /-- Where the connective stands. -/
  position : Nat

/-- How far the innermost open scope has come. -/
inductive Progress where
  | beforeOperand (leading : Option Leading)
  | afterProperty (leading : Option Leading) (property : Token)
  | afterOperator (leading : Option Leading) (property operator : Token)
  | afterOperand (tree : Expr) (depth : Nat)

/-- A scope that waits for a bracketed operand. -/
structure Enclosing where
  leading : Option Leading
  /-- Where the opening bracket stands. -/
  bracket : Nat

structure State where
  /-- The scopes around the innermost one, from the inside out. -/
  enclosing : List Enclosing := []
  progress : Progress := .beforeOperand none

/-- Appends an operand that starts at a position to the left part of its
scope. -/
def complete (limits : Limits) (leading : Option Leading) (tree : Expr)
    (depth position : Nat) :
    Except ParseError Progress :=
  let (tree, depth) := match leading with
    | none => (tree, depth)
    | some left =>
      (.logical left.connective left.tree tree, 1 + max left.depth depth)
  if limits.treeDepth < depth then
    .error (.treeTooDeep limits.treeDepth position)
  else .ok (.afterOperand tree depth)

/-- Where an operand has to start. -/
def stepBeforeOperand (limits : Limits) (enclosing : List Enclosing)
    (leading : Option Leading)
    (token : Token) : Except ParseError State :=
  match token.kind with
  | .property => .ok ⟨enclosing, .afterProperty leading token⟩
  | .openBracket =>
    if limits.nesting ≤ enclosing.length then
      .error (.nestingTooDeep limits.nesting token.span.start)
    else .ok ⟨⟨leading, token.span.start⟩ :: enclosing, .beforeOperand none⟩
  | .connective =>
    .error (.wrongOrder (.operandExpected token) token.span.start)
  | .closeBracket =>
    match enclosing, leading with
    | [], _ => .error (.unmatchedClosing token.span.start)
    | _ :: _, some left => .error (.wrongOrder .operandMissing left.position)
    | _ :: _, none => .error (.emptyExpression token.span.start)
  | .operator | .value =>
    .error (.wrongOrder (.unexpected token) token.span.start)

/-- Where a scope may be joined to a further operand or end. -/
def stepAfterOperand (limits : Limits) (enclosing : List Enclosing)
    (tree : Expr) (depth : Nat)
    (token : Token) : Except ParseError State :=
  match token.kind with
  | .property | .openBracket =>
    .error (.wrongOrder (.connectiveExpected token) token.span.start)
  | .connective =>
    match Connective.ofLexeme? token.text with
    | some connective =>
      .ok
        ⟨enclosing,
          .beforeOperand (some ⟨tree, depth, connective, token.span.start⟩)⟩
    | none => .error (.wrongOrder (.unknownConnective token) token.span.start)
  | .closeBracket =>
    match enclosing with
    | [] => .error (.unmatchedClosing token.span.start)
    | outer :: rest =>
      (complete limits outer.leading tree depth outer.bracket).map (⟨rest, ·⟩)
  | .operator | .value =>
    .error (.wrongOrder (.unexpected token) token.span.start)

def step (limits : Limits) (state : State) (token : Token) :
    Except ParseError State :=
  match state.progress with
  | .beforeOperand leading =>
    stepBeforeOperand limits state.enclosing leading token
  | .afterProperty leading property =>
    if token.kind = .operator then
      .ok ⟨state.enclosing, .afterOperator leading property token⟩
    else
      .error
        (.wrongOrder (.wrongKind .operator property (some token))
          token.span.start)
  | .afterOperator leading property operator =>
    if token.kind = .value then
      (complete limits leading (.comparison property operator token) 1
          property.span.start).map
        (⟨state.enclosing, ·⟩)
    else
      .error
        (.wrongOrder (.wrongKind .value operator (some token))
          token.span.start)
  | .afterOperand tree depth =>
    stepAfterOperand limits state.enclosing tree depth token

/-- What the tokens amount to when they end at a byte of the query. -/
def finish (state : State) (stop : Nat) : Except ParseError Expr :=
  match state.progress, state.enclosing with
  | .afterProperty _ property, _ =>
    .error (.wrongOrder (.wrongKind .operator property none) stop)
  | .afterOperator _ _ operator, _ =>
    .error (.wrongOrder (.wrongKind .value operator none) stop)
  | _, innermost :: _ => .error (.unmatchedOpening innermost.bracket)
  | .beforeOperand none, [] => .error (.emptyExpression stop)
  | .beforeOperand (some left), [] =>
    .error (.wrongOrder .operandMissing left.position)
  | .afterOperand tree _, [] => .ok tree

/-- The first byte after the last token. -/
def stopOf (tokens : List Token) : Nat :=
  (tokens.getLast?.map (·.span.stop)).getD 0

end Folding

/-- The expression that a list of tokens spells. -/
def Expr.ofTokens (limits : Limits) (tokens : List Token) :
    Except ParseError Expr :=
  match tokens.foldlM (Folding.step limits) {} with
  | .error error => .error error
  | .ok state => Folding.finish state (Folding.stopOf tokens)

end RecordFilter

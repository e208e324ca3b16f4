import RecordFilter.Compiler
import RecordFilter.Proofs.Outcome

/-!
# The stages of compilation

A query compiles exactly if it passes all stages, and the predicate is made of
what the last one answers.
-/

namespace RecordFilter.Compiler

variable {α : Type} {compiler : Compiler α} {query : String}

theorem tokenize_eq_ok_iff {tokens : List Token} :
    compiler.tokenize query = .ok tokens ↔
      (∀ limit, compiler.options.maxLength = some limit →
        utf8Length query.toList ≤ limit) ∧
      compiler.lexicon.tokenize query = .ok tokens := by
  unfold tokenize
  cases compiler.options.maxLength with
  | none => simp [Outcome.mapError_eq_ok_iff]
  | some limit =>
      by_cases hlong : limit < utf8Length query.toList
      · simp [hlong, Nat.not_le_of_lt hlong]
      · simp [hlong, Nat.le_of_not_lt hlong, Outcome.mapError_eq_ok_iff]

theorem parse_eq_ok_iff {expr : Expr} :
    compiler.parse query = .ok expr ↔
      ∃ tokens, compiler.tokenize query = .ok tokens ∧
        Expr.ofTokens compiler.options.limits tokens = .ok expr := by
  simp only [parse, Outcome.bind_eq_ok_iff, Outcome.mapError_eq_ok_iff]

theorem parse_of_tokenize {tokens : List Token}
    (htokens : compiler.tokenize query = .ok tokens) :
    compiler.parse query =
      (Expr.ofTokens compiler.options.limits tokens).mapError .parse := by
  rw [parse, htokens]
  rfl

theorem bind_eq_ok_iff {filter : Filter α} :
    compiler.bind query = .ok filter ↔
      ∃ expr, compiler.parse query = .ok expr ∧
        compiler.schema.bind expr = .ok filter := by
  simp only [bind, Outcome.bind_eq_ok_iff, Outcome.mapError_eq_ok_iff]

theorem compile_eq_ok_iff {predicate : Predicate α} :
    compiler.compile query = .ok predicate ↔
      ∃ filter, compiler.bind query = .ok filter ∧
        (Predicate.ofFilter filter).withSource query = predicate := by
  simp only [compile, Outcome.bind_eq_ok_iff, Except.ok.injEq]

theorem compile_eq_ok_iff_stages {predicate : Predicate α} :
    compiler.compile query = .ok predicate ↔
      ∃ tokens expr filter, compiler.tokenize query = .ok tokens ∧
        Expr.ofTokens compiler.options.limits tokens = .ok expr ∧
        compiler.schema.bind expr = .ok filter ∧
        (Predicate.ofFilter filter).withSource query = predicate := by
  rw [compile_eq_ok_iff]
  constructor
  · rintro ⟨filter, hfilter, rfl⟩
    obtain ⟨expr, hexpr, hbind⟩ := bind_eq_ok_iff.mp hfilter
    obtain ⟨tokens, htokens, hparse⟩ := parse_eq_ok_iff.mp hexpr
    exact ⟨tokens, expr, filter, htokens, hparse, hbind, rfl⟩
  · rintro ⟨tokens, expr, filter, htokens, hparse, hbind, rfl⟩
    have hexpr : compiler.parse query = .ok expr :=
      parse_eq_ok_iff.mpr ⟨tokens, htokens, hparse⟩
    exact ⟨filter, bind_eq_ok_iff.mpr ⟨expr, hexpr, hbind⟩, rfl⟩

/-! ## Failures -/

/-- The query is no longer than the options allow. -/
def Admits (compiler : Compiler α) (query : String) : Prop :=
  ∀ limit, compiler.options.maxLength = some limit →
    utf8Length query.toList ≤ limit

/-- How a query fails to compile: the stages before the one that fails have gone
through. -/
inductive FailsWith (compiler : Compiler α) (query : String) :
    CompileError → Prop
  | tooLong {limit : Nat} (hlimit : compiler.options.maxLength = some limit)
    (hlong : limit < utf8Length query.toList) :
    FailsWith compiler query (.queryTooLong (utf8Length query.toList) limit)
  | lex {error : LexError} (hfits : compiler.Admits query)
    (herror : compiler.lexicon.tokenize query = .error error) :
    FailsWith compiler query (.lex error)
  | parse {tokens : List Token} {error : ParseError}
    (htokens : compiler.tokenize query = .ok tokens)
    (herror : Expr.ofTokens compiler.options.limits tokens = .error error) :
    FailsWith compiler query (.parse error)
  | bind {tokens : List Token} {expr : Expr} {error : BindError}
    (htokens : compiler.tokenize query = .ok tokens)
    (hparse : Expr.ofTokens compiler.options.limits tokens = .ok expr)
    (herror : compiler.schema.bind expr = .error error) :
    FailsWith compiler query (.bind error)

theorem failsWith_of_tokenize {error : CompileError}
    (htokens : compiler.tokenize query = .error error) :
    compiler.FailsWith query error := by
  unfold tokenize at htokens
  cases hlimit : compiler.options.maxLength with
  | none =>
      simp only [hlimit] at htokens
      obtain ⟨inner, hinner, rfl⟩ := Outcome.mapError_eq_error_iff.mp htokens
      exact .lex (by simp [Admits, hlimit]) hinner
  | some limit =>
      simp only [hlimit] at htokens
      split at htokens
      next hlong =>
        obtain rfl := Except.error.inj htokens
        exact .tooLong hlimit hlong
      next hshort =>
        obtain ⟨inner, hinner, rfl⟩ := Outcome.mapError_eq_error_iff.mp htokens
        exact .lex (by simpa [Admits, hlimit] using hshort) hinner

theorem failsWith_of_compile {error : CompileError}
    (hcompile : compiler.compile query = .error error) :
    compiler.FailsWith query error := by
  unfold compile bind parse at hcompile
  rcases Outcome.bind_eq_error_iff.mp hcompile with hbind | ⟨_, -, hdone⟩
  · rcases Outcome.bind_eq_error_iff.mp hbind with hparse | ⟨expr, hexpr, hbad⟩
    · rcases Outcome.bind_eq_error_iff.mp hparse with
        hlexed | ⟨tokens, htokens, htree⟩
      · exact failsWith_of_tokenize hlexed
      · obtain ⟨inner, hinner, rfl⟩ := Outcome.mapError_eq_error_iff.mp htree
        exact .parse htokens hinner
    · obtain ⟨tokens, htokens, hparse⟩ := parse_eq_ok_iff.mp hexpr
      obtain ⟨inner, hinner, rfl⟩ := Outcome.mapError_eq_error_iff.mp hbad
      exact .bind htokens hparse hinner
  · contradiction

theorem exists_of_compile_eq_bind_error {error : BindError}
    (hcompile : compiler.compile query = .error (.bind error)) :
    ∃ tokens expr, compiler.tokenize query = .ok tokens ∧
      Expr.ofTokens compiler.options.limits tokens = .ok expr ∧
      compiler.schema.bind expr = .error error := by
  cases failsWith_of_compile hcompile with
  | bind htokens hparse herror => exact ⟨_, _, htokens, hparse, herror⟩

end RecordFilter.Compiler

import Mathlib.Data.List.Induction
import RecordFilter.Proofs.Cache.Refinement
import RecordFilter.Proofs.Compiler.OnePass

/-!
# More room never hurts

Two new caches of one compiler that answer the same calls differ in their
capacities only. The queries of the smaller cache are then always the last ones
of the larger cache: a call moves or drops a query in both, or it drops one that
only the larger cache has kept. So a hit of the smaller cache is a hit of the
larger one. The argument is about memo tables; the caches follow because they
answer as the tables do.
-/

namespace RecordFilter

variable {α : Type}

namespace MemoTable

variable {compiler : Compiler α} {capacity larger : Nat}
variable {table other : MemoTable} {query : String}

/-! ## What every run leaves behind -/

structure IsSound (compiler : Compiler α) (capacity : Nat)
    (table : MemoTable) : Prop where
  nodup : table.queries.Nodup
  compiles : ∀ query ∈ table.queries, compiler.Compiles query
  length_le : table.queries.length ≤ capacity

theorem isSound_run (compiler : Compiler α) (capacity : Nat)
    (calls : List CacheCall) :
    IsSound compiler capacity
      ((machine compiler capacity).run .empty calls).2 := by
  have hcache := (PredicateCache.run_create compiler capacity calls).2
  refine ⟨hcache.nodup, ?_, hcache.length_le⟩
  intro query hquery
  rcases hcache.get_of_mem hquery with ⟨predicate, hcompile, -⟩
  exact ⟨predicate, hcompile⟩

/-! ## Two tables side by side -/

/-- The queries are the last ones of the other table, and there have been no
more hits. -/
structure IsWithin (table other : MemoTable) : Prop where
  suffix : table.queries <:+ other.queries
  hits_le : table.hits ≤ other.hits

namespace IsWithin

theorem erase (hwithin : table.IsWithin other)
    (hother : other.IsSound compiler larger) (query : String) :
    IsWithin { table with queries := table.queries.erase query }
      { other with queries := other.queries.erase query } where
  suffix := suffix_erase hwithin.suffix hother.nodup query
  hits_le := hwithin.hits_le

/-- Both tables have the query. -/
theorem get_of_mem (hwithin : table.IsWithin other)
    (hother : other.IsSound compiler larger) (hquery : query ∈ table.queries) :
    (table.get compiler capacity query).IsWithin
      (other.get compiler larger query) := by
  have hotherQuery : query ∈ other.queries := hwithin.suffix.subset hquery
  rw [MemoTable.get_of_mem hquery, MemoTable.get_of_mem hotherQuery]
  constructor
  · apply suffix_concat
    exact suffix_erase hwithin.suffix hother.nodup query
  · exact Nat.succ_le_succ hwithin.hits_le

/-- Only the other table has the query. -/
theorem get_of_mem_other (hwithin : table.IsWithin other)
    (htable : table.IsSound compiler capacity)
    (hother : other.IsSound compiler larger) (hquery : query ∉ table.queries)
    (hotherQuery : query ∈ other.queries) :
    (table.get compiler capacity query).IsWithin
      (other.get compiler larger query) := by
  have hcompiles := hother.compiles query hotherQuery
  have hrest := suffix_erase_of_notMem hwithin.suffix hquery
  constructor
  · rw [queries_get_of_notMem htable.length_le hquery hcompiles,
      MemoTable.get_of_mem hotherQuery]
    exact (List.drop_suffix _ _).trans (suffix_concat hrest query)
  · rw [hits_get_of_notMem hquery, MemoTable.get_of_mem hotherQuery]
    exact Nat.le_succ_of_le hwithin.hits_le

/-- Neither table has the query. The smaller table is left with no more queries
than the larger one, and both with the last ones of one list. -/
theorem get_of_notMem (hwithin : table.IsWithin other)
    (htable : table.IsSound compiler capacity)
    (hother : other.IsSound compiler larger) (hcapacity : capacity ≤ larger)
    (hquery : query ∉ table.queries) (hotherQuery : query ∉ other.queries) :
    (table.get compiler capacity query).IsWithin
      (other.get compiler larger query) := by
  constructor
  · by_cases hcompiles : compiler.Compiles query
    · have hshorter := hwithin.suffix.length_le
      have hboth := suffix_concat hwithin.suffix query
      rw [queries_get_of_notMem htable.length_le hquery hcompiles,
        queries_get_of_notMem hother.length_le hotherQuery hcompiles]
      apply List.suffix_of_suffix_length_le
        ((List.drop_suffix _ _).trans hboth) (List.drop_suffix _ _)
      simp only [List.length_drop, List.length_append, List.length_singleton]
      omega
    · rw [get_of_not_kept hquery (fun hkept => hcompiles hkept.1),
        get_of_not_kept hotherQuery (fun hkept => hcompiles hkept.1)]
      exact hwithin.suffix
  · rw [hits_get_of_notMem hquery, hits_get_of_notMem hotherQuery]
    exact hwithin.hits_le

theorem call (hwithin : table.IsWithin other)
    (htable : table.IsSound compiler capacity)
    (hother : other.IsSound compiler larger) (hcapacity : capacity ≤ larger)
    (call : CacheCall) :
    (table.call compiler capacity call).2.IsWithin
      (other.call compiler larger call).2 := by
  cases call with
  | contains query => exact hwithin
  | invalidate query => exact hwithin.erase hother query
  | clear => exact ⟨List.suffix_refl [], hwithin.hits_le⟩
  | get query =>
      by_cases hquery : query ∈ table.queries
      · exact hwithin.get_of_mem hother hquery
      by_cases hotherQuery : query ∈ other.queries
      · exact hwithin.get_of_mem_other htable hother hquery hotherQuery
      · exact
          hwithin.get_of_notMem htable hother hcapacity hquery hotherQuery

end IsWithin

theorem isWithin_run (compiler : Compiler α) (hcapacity : capacity ≤ larger)
    (calls : List CacheCall) :
    IsWithin ((machine compiler capacity).run .empty calls).2
      ((machine compiler larger).run .empty calls).2 := by
  induction calls using List.reverseRecOn with
  | nil => exact ⟨List.suffix_refl [], Nat.le_refl 0⟩
  | append_singleton calls call ih =>
      rw [CacheMachine.run_append, CacheMachine.run_append]
      exact ih.call (isSound_run compiler capacity calls)
        (isSound_run compiler larger calls) hcapacity call

end MemoTable

/-! ## Two caches side by side -/

namespace PredicateCache

/-- Of two new caches that answer the same calls, the one with more room holds
all queries that the other one holds, and has had at least as many hits. -/
theorem larger_holds_all (compiler : Compiler α) {capacity larger : Nat}
    (hcapacity : capacity ≤ larger) (calls : List CacheCall) :
    let cache := (machine.run (create compiler capacity) calls).2
    let other := (machine.run (create compiler larger) calls).2
    (∀ query, cache.contains query = true → other.contains query = true) ∧
      cache.hits ≤ other.hits := by
  intro cache other
  have hwithin := MemoTable.isWithin_run compiler hcapacity calls
  have hcache := (run_create compiler capacity calls).2
  have hother := (run_create compiler larger calls).2
  constructor
  · intro query hquery
    rw [hcache.contains_eq, decide_eq_true_iff] at hquery
    rw [hother.contains_eq, decide_eq_true_iff]
    exact hwithin.suffix.subset hquery
  · rw [hcache.hits_eq, hother.hits_eq]
    exact hwithin.hits_le

/-- Calls with a query that is forgotten and one that does not compile. -/
def contactCalls : List CacheCall :=
  [.get "Age == '1'", .get "Age == '2'", .get "Age == '1'",
    .invalidate "Age == '2'", .get "Age == 'x'", .get "Age == '1'"]

theorem compile_contactCalls :
    (["Age == '1'", "Age == '2'", "Age == 'x'"].map fun query =>
      (OnePass.contactCompiler.compile query).toOption.isSome) =
      [true, true, false] := by
  simp only [Compiler.compile, Compiler.bind, Compiler.parse,
    Compiler.tokenize, Compiler.lexicon, Lexicon.ofNames_eq_insertionSort]
  decide +kernel

theorem hits_contactCalls :
    ((MemoTable.machine OnePass.contactCompiler 1).run .empty
      contactCalls).2.hits = 1 ∧
    ((MemoTable.machine OnePass.contactCompiler 2).run .empty
      contactCalls).2.hits = 2 := by
  have hqueries := compile_contactCalls
  simp only [List.map_cons, List.map_nil, List.cons.injEq, and_true,
    ← Compiler.compiles_iff_isSome, Bool.eq_false_iff, ne_eq] at hqueries
  rcases hqueries with ⟨hfirst, hsecond, hthird⟩
  constructor <;>
    simp [contactCalls, CacheMachine.run, MemoTable.machine, MemoTable.call,
      MemoTable.get, MemoTable.empty, MemoTable.dropExcess, hfirst, hsecond,
      hthird]

theorem larger_holds_all_contact :
    let cache :=
      (machine.run (create OnePass.contactCompiler 1) contactCalls).2
    let other :=
      (machine.run (create OnePass.contactCompiler 2) contactCalls).2
    1 ≤ 2 ∧
      (∀ query, cache.contains query = true → other.contains query = true) ∧
      cache.hits ≤ other.hits ∧ cache.hits = 1 ∧ other.hits = 2 := by
  intro cache other
  have hcapacity : 1 ≤ 2 := by omega
  have hcache := (run_create OnePass.contactCompiler 1 contactCalls).2
  have hother := (run_create OnePass.contactCompiler 2 contactCalls).2
  rcases hits_contactCalls with ⟨hone, htwo⟩
  rcases larger_holds_all OnePass.contactCompiler hcapacity contactCalls with
    ⟨hholds, hhits⟩
  exact
    ⟨hcapacity, hholds, hhits, hcache.hits_eq.trans hone,
      hother.hits_eq.trans htwo⟩

end PredicateCache

end RecordFilter

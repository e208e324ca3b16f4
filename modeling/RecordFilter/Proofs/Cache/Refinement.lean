import RecordFilter.Proofs.Cache.MemoTable
import RecordFilter.Proofs.Cache.Recency
import RecordFilter.Proofs.Compiler.Stages

/-!
# A cache is a memo table

The predicates of a cache, the list of its queries and the table of their
positions tell of the same queries after every call. So a cache answers every
sequence of calls as a memo table does, and its predicates are those that the
compiler would make anew.
-/

namespace RecordFilter

variable {α : Type}

namespace PredicateCache

/-! ## The stores of a cache -/

/-- The stores tell of the same queries, and the predicates are those of the
compiler. -/
structure Coherent (compiler : Compiler α)
    (entries : Std.HashMap String (Predicate α)) (recency : RecencyList) :
    Prop where
  inStep : recency.InStep
  mem_entries : ∀ query, query ∈ entries ↔ query ∈ recency.order
  compiled : ∀ (query : String) (predicate : Predicate α),
    entries[query]? = some predicate → compiler.compile query = .ok predicate

theorem coherent_empty (compiler : Compiler α) :
    Coherent compiler ∅ .empty where
  inStep := RecencyList.inStep_empty
  mem_entries query := by simp [RecencyList.empty]
  compiled query predicate hpredicate := by simp at hpredicate

namespace Coherent

variable {compiler : Compiler α} {entries : Std.HashMap String (Predicate α)}
variable {recency : RecencyList}

theorem size_entries (hstores : Coherent compiler entries recency) :
    entries.size = recency.order.length := by
  rw [← Std.HashMap.length_keys]
  apply List.Perm.length_eq
  rw [List.perm_ext_iff_of_nodup Std.HashMap.nodup_keys hstores.inStep.nodup]
  intro query
  rw [Std.HashMap.mem_keys, hstores.mem_entries]

theorem contains_entries (hstores : Coherent compiler entries recency)
    (query : String) :
    entries.contains query = decide (query ∈ recency.order) := by
  rw [Bool.eq_iff_iff, Std.HashMap.contains_iff_mem, hstores.mem_entries,
    decide_eq_true_iff]

/-- A key that leaves the list leaves the predicates as well. -/
theorem erase (hstores : Coherent compiler entries recency) {key : String}
    {rest : RecencyList} (hrest : rest.InStep)
    (horder : rest.order = recency.order.erase key) :
    Coherent compiler (entries.erase key) rest := by
  refine ⟨hrest, ?_, ?_⟩
  · intro query
    rw [horder, Std.HashMap.mem_erase, hstores.mem_entries,
      hstores.inStep.nodup.mem_erase_iff, beq_eq_false_iff_ne, ne_comm]
  · intro query predicate hpredicate
    rw [Std.HashMap.getElem?_erase] at hpredicate
    split at hpredicate
    · contradiction
    · exact hstores.compiled query predicate hpredicate

theorem touch (hstores : Coherent compiler entries recency) {query : String}
    (hquery : query ∈ recency.order) :
    Coherent compiler entries (recency.touch query) := by
  obtain ⟨htouched, horder⟩ := hstores.inStep.touch query
  refine ⟨htouched, ?_, hstores.compiled⟩
  intro other
  rw [horder, hstores.mem_entries, List.mem_append, List.mem_singleton,
    hstores.inStep.nodup.mem_erase_iff]
  by_cases hsame : other = query
  · simp [hsame, hquery]
  · simp [hsame]

theorem insert (hstores : Coherent compiler entries recency) {query : String}
    {predicate : Predicate α}
    (hcompile : compiler.compile query = .ok predicate) :
    Coherent compiler (entries.insert query predicate)
      (recency.touch query) := by
  obtain ⟨htouched, horder⟩ := hstores.inStep.touch query
  refine ⟨htouched, ?_, ?_⟩
  · intro other
    rw [horder, Std.HashMap.mem_insert, hstores.mem_entries, List.mem_append,
      List.mem_singleton, hstores.inStep.nodup.mem_erase_iff, beq_iff_eq]
    by_cases hsame : other = query
    · simp [hsame]
    · simp [hsame, Ne.symm hsame]
  · intro other found hfound
    rw [Std.HashMap.getElem?_insert] at hfound
    split at hfound
    next hsame =>
      rw [← beq_iff_eq.mp hsame, ← Option.some.inj hfound]
      exact hcompile
    next => exact hstores.compiled other found hfound

end Coherent

/-! ## Making room -/

theorem shrink_frame (cache : PredicateCache α) :
    cache.shrink.compiler = cache.compiler ∧
      cache.shrink.capacity = cache.capacity ∧
      cache.shrink.hits = cache.hits ∧ cache.shrink.misses = cache.misses := by
  fun_induction shrink cache with
  | case1 cache hfull hevict => exact ⟨rfl, rfl, rfl, rfl⟩
  | case2 cache hfull key rest hevict ih => exact ih
  | case3 cache hroom => exact ⟨rfl, rfl, rfl, rfl⟩

theorem Coherent.shrink (cache : PredicateCache α)
    (hstores : Coherent cache.compiler cache.entries cache.recency) :
    Coherent cache.compiler cache.shrink.entries cache.shrink.recency ∧
      cache.shrink.recency.order =
        cache.recency.order.drop
          (cache.recency.order.length - cache.capacity) := by
  fun_induction PredicateCache.shrink cache with
  | case1 cache hfull hevict =>
      unfold RecencyList.evict? at hevict
      cases horder : cache.recency.order with
      | nil => exact ⟨hstores, by simp⟩
      | cons first others => simp [horder] at hevict
  | case2 cache hfull key rest hevict ih =>
      obtain ⟨hrest, horder⟩ := hstores.inStep.evict? hevict
      have herase : rest.order = cache.recency.order.erase key := by
        rw [horder, List.erase_cons_head]
      obtain ⟨hshrunk, hshrunkOrder⟩ := ih (hstores.erase hrest herase)
      refine ⟨hshrunk, ?_⟩
      have hmany : cache.capacity ≤ rest.order.length := by
        rw [RecencyList.size, horder, List.length_cons] at hfull
        omega
      rw [hshrunkOrder, horder, List.length_cons, Nat.succ_sub hmany,
        List.drop_succ_cons]
  | case3 cache hroom =>
      have hfits : cache.recency.order.length ≤ cache.capacity :=
        Nat.le_of_not_lt hroom
      exact ⟨hstores, by rw [Nat.sub_eq_zero_of_le hfits, List.drop_zero]⟩

/-! ## The calls of a cache -/

def call (cache : PredicateCache α) :
    CacheCall → CacheAnswer α × PredicateCache α
  | .get query => (.result (cache.get query).1, (cache.get query).2)
  | .contains query => (.truth (cache.contains query), cache)
  | .invalidate query =>
      (.truth (cache.invalidate query).1, (cache.invalidate query).2)
  | .clear => (.done, cache.clear)

def view (cache : PredicateCache α) : CacheView where
  size := cache.size
  isEmpty := cache.isEmpty
  stats := cache.stats
  contains := cache.contains

def machine : CacheMachine α (PredicateCache α) where
  call := call
  view := view

/-- The cache does for its compiler and within its capacity what the table says.
-/
structure Represents (compiler : Compiler α) (capacity : Nat)
    (cache : PredicateCache α) (table : MemoTable) : Prop where
  compiler_eq : cache.compiler = compiler
  capacity_eq : cache.capacity = capacity
  coherent : Coherent compiler cache.entries cache.recency
  order_eq : cache.recency.order = table.queries
  hits_eq : cache.hits = table.hits
  misses_eq : cache.misses = table.misses
  length_le : table.queries.length ≤ capacity

theorem represents_create (compiler : Compiler α) (capacity : Nat) :
    Represents compiler capacity (create compiler capacity) .empty where
  compiler_eq := rfl
  capacity_eq := rfl
  coherent := coherent_empty compiler
  order_eq := rfl
  hits_eq := rfl
  misses_eq := rfl
  length_le := Nat.zero_le capacity

namespace Represents

variable {compiler : Compiler α} {capacity : Nat}
variable {cache : PredicateCache α} {table : MemoTable}

theorem nodup (hcache : Represents compiler capacity cache table) :
    table.queries.Nodup := by
  rw [← hcache.order_eq]
  exact hcache.coherent.inStep.nodup

theorem contains_eq (hcache : Represents compiler capacity cache table)
    (query : String) :
    cache.contains query = decide (query ∈ table.queries) := by
  rw [PredicateCache.contains, hcache.coherent.contains_entries,
    hcache.order_eq]

theorem size_eq (hcache : Represents compiler capacity cache table) :
    cache.size = table.queries.length := by
  rw [size, hcache.coherent.size_entries, hcache.order_eq]

theorem view_eq (hcache : Represents compiler capacity cache table) :
    cache.view = table.view := by
  have hsize := hcache.size_eq
  have hempty : cache.isEmpty = table.queries.isEmpty := by
    rw [isEmpty, Std.HashMap.isEmpty_eq_size_eq_zero, ← size, hsize]
    cases table.queries <;> rfl
  rw [size] at hsize
  simp only [view, MemoTable.view, stats, size, hsize, hempty, hcache.hits_eq,
    hcache.misses_eq, CacheView.mk.injEq, true_and]
  exact funext hcache.contains_eq

theorem invalidate (hcache : Represents compiler capacity cache table)
    (query : String) :
    Represents compiler capacity (cache.invalidate query).2
      { table with queries := table.queries.erase query } := by
  obtain ⟨hremoved, horder⟩ := hcache.coherent.inStep.remove query
  refine
    { hcache with
      coherent := hcache.coherent.erase hremoved horder
      order_eq := ?_
      length_le := ?_ }
  · rw [← hcache.order_eq]
    exact horder
  · exact Nat.le_trans List.length_erase_le hcache.length_le

theorem clear (hcache : Represents compiler capacity cache table) :
    Represents compiler capacity cache.clear { table with queries := [] } :=
  { hcache with
    coherent := coherent_empty compiler
    order_eq := rfl
    length_le := Nat.zero_le capacity }

/-! ## Getting a predicate -/

theorem hit (hcache : Represents compiler capacity cache table) {query : String}
    (hquery : query ∈ table.queries) :
    Represents compiler capacity
      { cache with
        hits := cache.hits + 1
        recency := cache.recency.touch query }
      { table with
        queries := table.queries.erase query ++ [query]
        hits := table.hits + 1 } := by
  obtain ⟨-, horder⟩ := hcache.coherent.inStep.touch query
  rw [hcache.order_eq] at horder
  have hlisted : query ∈ cache.recency.order := by
    rw [hcache.order_eq]
    exact hquery
  refine
    { hcache with
      coherent := hcache.coherent.touch hlisted
      order_eq := horder
      hits_eq := congrArg (· + 1) hcache.hits_eq
      length_le := ?_ }
  have hpositive := List.length_pos_of_mem hquery
  have hlength := List.length_erase_of_mem hquery
  have hfits := hcache.length_le
  simp only [List.length_append, List.length_singleton]
  omega

theorem miss (hcache : Represents compiler capacity cache table) :
    Represents compiler capacity { cache with misses := cache.misses + 1 }
      { table with misses := table.misses + 1 } :=
  { hcache with misses_eq := congrArg (· + 1) hcache.misses_eq }

theorem store (hcache : Represents compiler capacity cache table)
    {query : String} (hquery : query ∉ table.queries) {predicate : Predicate α}
    (hcompile : compiler.compile query = .ok predicate) :
    Represents compiler capacity (cache.store query predicate)
      { table with
        queries :=
          MemoTable.dropExcess capacity (table.queries ++ [query]) } := by
  have hlength : (table.queries ++ [query]).length ≤ capacity + 1 := by
    simpa using hcache.length_le
  obtain ⟨-, htouched⟩ := hcache.coherent.inStep.touch query
  rw [hcache.order_eq, List.erase_of_not_mem hquery] at htouched
  have hinserted := hcache.coherent.insert hcompile
  rw [← hcache.compiler_eq] at hinserted
  let filled : PredicateCache α :=
    { cache with
      entries := cache.entries.insert query predicate
      recency := cache.recency.touch query }
  obtain ⟨hstores, horder⟩ := Coherent.shrink filled hinserted
  obtain ⟨hcompiler, hcapacity, hhits, hmisses⟩ := shrink_frame filled
  have hfilled : filled.compiler = compiler := hcache.compiler_eq
  rw [hfilled] at hstores
  refine ⟨?_, ?_, hstores, ?_, ?_, ?_, ?_⟩
  · exact hcompiler.trans hcache.compiler_eq
  · exact hcapacity.trans hcache.capacity_eq
  · rw [MemoTable.dropExcess_eq_drop hlength, ← hcache.capacity_eq, ← htouched]
    exact horder
  · exact hhits.trans hcache.hits_eq
  · exact hmisses.trans hcache.misses_eq
  · exact MemoTable.length_dropExcess_le hlength

theorem get_of_mem (hcache : Represents compiler capacity cache table)
    {query : String} (hquery : query ∈ table.queries) :
    ∃ predicate, compiler.compile query = .ok predicate ∧
      cache.get query =
        (.ok predicate,
          { cache with
            hits := cache.hits + 1
            recency := cache.recency.touch query }) := by
  rw [← hcache.order_eq, ← hcache.coherent.mem_entries] at hquery
  have hfound : cache.entries[query]? = some cache.entries[query] :=
    Std.HashMap.getElem?_eq_some_getElem hquery
  refine ⟨_, hcache.coherent.compiled query _ hfound, ?_⟩
  rw [PredicateCache.get, hfound]

theorem getElem?_of_notMem (hcache : Represents compiler capacity cache table)
    {query : String} (hquery : query ∉ table.queries) :
    cache.entries[query]? = none := by
  rw [← hcache.order_eq, ← hcache.coherent.mem_entries] at hquery
  exact Std.HashMap.getElem?_eq_none hquery

theorem get_of_error (hcache : Represents compiler capacity cache table)
    {query : String} {error : CompileError}
    (hcompile : compiler.compile query = .error error) :
    query ∉ table.queries ∧
      cache.get query =
        (.error error, { cache with misses := cache.misses + 1 }) := by
  have hquery : query ∉ table.queries := by
    intro hmem
    obtain ⟨predicate, hpredicate, -⟩ := hcache.get_of_mem hmem
    rw [hcompile] at hpredicate
    contradiction
  have hfound := hcache.getElem?_of_notMem hquery
  rw [← hcache.compiler_eq] at hcompile
  exact ⟨hquery, by simp only [PredicateCache.get, hfound, hcompile]⟩

theorem get_of_ok (hcache : Represents compiler capacity cache table)
    {query : String} {predicate : Predicate α}
    (hquery : query ∉ table.queries)
    (hcompile : compiler.compile query = .ok predicate) :
    cache.get query =
      (.ok predicate,
        if cache.capacity = 0 then { cache with misses := cache.misses + 1 }
        else
          { cache with misses := cache.misses + 1 }.store query predicate) := by
  have hfound := hcache.getElem?_of_notMem hquery
  rw [← hcache.compiler_eq] at hcompile
  simp only [PredicateCache.get, hfound, hcompile]

theorem get (hcache : Represents compiler capacity cache table)
    (query : String) :
    (cache.get query).1 = compiler.compile query ∧
      Represents compiler capacity (cache.get query).2
        (table.get compiler capacity query) := by
  cases hcompile : compiler.compile query with
  | error error =>
      obtain ⟨hquery, hget⟩ := hcache.get_of_error hcompile
      have hfails : ¬(compiler.Compiles query ∧ 0 < capacity) := by
        simp [Compiler.Compiles, hcompile]
      rw [hget, MemoTable.get_of_not_kept hquery hfails]
      exact ⟨rfl, hcache.miss⟩
  | ok predicate =>
      by_cases hquery : query ∈ table.queries
      · obtain ⟨found, hfound, hget⟩ := hcache.get_of_mem hquery
        rw [hget, ← hcompile, hfound, MemoTable.get_of_mem hquery]
        exact ⟨rfl, hcache.hit hquery⟩
      have hsame := hcache.capacity_eq
      rw [hcache.get_of_ok hquery hcompile]
      by_cases hcapacity : cache.capacity = 0
      · have hnone : ¬(compiler.Compiles query ∧ 0 < capacity) := by
          omega
        rw [if_pos hcapacity, MemoTable.get_of_not_kept hquery hnone]
        exact ⟨rfl, hcache.miss⟩
      · have hsome : 0 < capacity := by
          omega
        rw [if_neg hcapacity,
          MemoTable.get_of_compiles hquery ⟨predicate, hcompile⟩ hsome]
        exact ⟨rfl, hcache.miss.store hquery hcompile⟩

/-! ## All calls -/

theorem call (hcache : Represents compiler capacity cache table)
    (call : CacheCall) :
    (cache.call call).1 = (table.call compiler capacity call).1 ∧
      Represents compiler capacity (cache.call call).2
        (table.call compiler capacity call).2 := by
  cases call with
  | get query =>
      obtain ⟨hresult, hnext⟩ := hcache.get query
      exact ⟨congrArg CacheAnswer.result hresult, hnext⟩
  | contains query =>
      exact ⟨congrArg CacheAnswer.truth (hcache.contains_eq query), hcache⟩
  | invalidate query =>
      exact
        ⟨congrArg CacheAnswer.truth (hcache.contains_eq query),
          hcache.invalidate query⟩
  | clear => exact ⟨rfl, hcache.clear⟩

end Represents

theorem run_create (compiler : Compiler α) (capacity : Nat)
    (calls : List CacheCall) :
    (machine.run (create compiler capacity) calls).1 =
        ((MemoTable.machine compiler capacity).run .empty calls).1 ∧
      Represents compiler capacity
        (machine.run (create compiler capacity) calls).2
        ((MemoTable.machine compiler capacity).run .empty calls).2 :=
  CacheMachine.run_of_simulation (represents_create compiler capacity)
    (fun _ _ call hcache => hcache.call call) calls

/-- A new cache answers every sequence of calls as a memo table does, and what
can be seen of the two is the same after each call. The table never holds a
query twice or more queries than its capacity, a predicate from the cache is the
one that the compiler makes of the query, a query that does not compile costs a
miss and nothing else, and every get is counted once. -/
theorem run_create_eq_memoTable (compiler : Compiler α) (capacity : Nat)
    (calls : List CacheCall) :
    let cache := (machine.run (create compiler capacity) calls).2
    let table := ((MemoTable.machine compiler capacity).run .empty calls).2
    (machine.run (create compiler capacity) calls).1 =
        ((MemoTable.machine compiler capacity).run .empty calls).1 ∧
      cache.view = table.view ∧ table.queries.Nodup ∧ cache.size ≤ capacity ∧
      (∀ query, (cache.get query).1 = compiler.compile query ∧
        ∀ predicate, (cache.get query).1 = .ok predicate →
          predicate.source = some query) ∧
      (∀ query error, compiler.compile query = .error error →
        (cache.get query).2 = { cache with misses := cache.misses + 1 }) ∧
      cache.hits + cache.misses = calls.countP CacheCall.isGet := by
  intro cache table
  obtain ⟨hanswers, hcache⟩ := run_create compiler capacity calls
  have hcount :=
    MemoTable.hits_add_misses_run compiler capacity .empty calls
  refine ⟨hanswers, hcache.view_eq, hcache.nodup, ?_, ?_, ?_, ?_⟩
  · rw [hcache.size_eq]
    exact hcache.length_le
  · intro query
    obtain ⟨hresult, -⟩ := hcache.get query
    refine ⟨hresult, ?_⟩
    intro predicate hpredicate
    rw [hresult] at hpredicate
    obtain ⟨filter, -, rfl⟩ := Compiler.compile_eq_ok_iff.mp hpredicate
    rfl
  · intro query error herror
    rw [(hcache.get_of_error herror).2]
  · rw [hcache.hits_eq, hcache.misses_eq, hcount]
    simp [MemoTable.empty]

end PredicateCache

end RecordFilter

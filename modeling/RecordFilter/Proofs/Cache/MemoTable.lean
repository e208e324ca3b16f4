import RecordFilter.Cache.PredicateCache

/-!
# Memo tables

What a cache of predicates is meant to be, without its stores: a list of queries
in the order of their last use, and two counters. Callers see the answers to
their calls and a few figures between them, so a cache and a memo table are held
against each other as machines that answer the same calls.
-/

namespace RecordFilter

variable {α : Type}

/-! ## Calls -/

inductive CacheCall where
  | get (query : String)
  | contains (query : String)
  | invalidate (query : String)
  | clear

def CacheCall.isGet : CacheCall → Bool
  | .get _ => true
  | _ => false

inductive CacheAnswer (α : Type) where
  | result (result : Except CompileError (Predicate α))
  | truth (value : Bool)
  | done

/-- What a caller can see of a cache between two calls. -/
structure CacheView where
  size : Nat
  isEmpty : Bool
  stats : CacheStats
  contains : String → Bool

/-- A thing with states of some type that can be called like a cache. -/
structure CacheMachine (α σ : Type) where
  call : σ → CacheCall → CacheAnswer α × σ
  view : σ → CacheView

namespace CacheMachine

variable {σ τ : Type}

/-- The answers to some calls, and the state after them. -/
def run (machine : CacheMachine α σ) (state : σ) :
    List CacheCall → List (CacheAnswer α) × σ
  | [] => ([], state)
  | call :: rest =>
      let (answer, next) := machine.call state call
      let (answers, last) := machine.run next rest
      (answer :: answers, last)

theorem run_append (machine : CacheMachine α σ) (state : σ)
    (front back : List CacheCall) :
    (machine.run state (front ++ back)).2 =
      (machine.run (machine.run state front).2 back).2 := by
  induction front generalizing state with
  | nil => rfl
  | cons call front ih => exact ih (machine.call state call).2

/-- Two machines that answer every call alike from related states answer all
calls alike, and end in related states. -/
theorem run_of_simulation {left : CacheMachine α σ} {right : CacheMachine α τ}
    {R : σ → τ → Prop} {state : σ} {other : τ} (hstart : R state other)
    (hcall : ∀ state other call, R state other →
      (left.call state call).1 = (right.call other call).1 ∧
        R (left.call state call).2 (right.call other call).2)
    (calls : List CacheCall) :
    (left.run state calls).1 = (right.run other calls).1 ∧
      R (left.run state calls).2 (right.run other calls).2 := by
  induction calls generalizing state other with
  | nil => exact ⟨rfl, hstart⟩
  | cons call rest ih =>
      obtain ⟨hanswer, hnext⟩ := hcall state other call hstart
      obtain ⟨hanswers, hlast⟩ := ih hnext
      refine ⟨?_, hlast⟩
      simp only [run, hanswer, hanswers]

end CacheMachine

/-! ## Queries that compile -/

def Compiler.Compiles (compiler : Compiler α) (query : String) : Prop :=
  ∃ predicate, compiler.compile query = .ok predicate

instance (compiler : Compiler α) (query : String) :
    Decidable (compiler.Compiles query) :=
  match hcompile : compiler.compile query with
  | .ok predicate => isTrue ⟨predicate, hcompile⟩
  | .error error => isFalse (by simp [Compiler.Compiles, hcompile])

theorem Compiler.compiles_iff_isSome {compiler : Compiler α} {query : String} :
    compiler.Compiles query ↔
      (compiler.compile query).toOption.isSome = true := by
  unfold Compiles
  cases compiler.compile query with
  | error error => simp [Except.toOption]
  | ok predicate => simp [Except.toOption]

/-! ## The table -/

structure MemoTable where
  /-- The least recently used query first. -/
  queries : List String
  hits : Nat
  misses : Nat

namespace MemoTable

def empty : MemoTable := ⟨[], 0, 0⟩

/-- Some queries without the first one, if they are more than a capacity. -/
def dropExcess (capacity : Nat) (queries : List String) : List String :=
  if capacity < queries.length then queries.tail else queries

theorem dropExcess_eq_drop {capacity : Nat} {queries : List String}
    (hlength : queries.length ≤ capacity + 1) :
    dropExcess capacity queries =
      queries.drop (queries.length - capacity) := by
  unfold dropExcess
  split
  next hfull =>
    have hone : queries.length - capacity = 1 := by omega
    rw [hone, List.drop_one]
  next hroom =>
    rw [Nat.sub_eq_zero_of_le (Nat.le_of_not_lt hroom), List.drop_zero]

theorem length_dropExcess_le {capacity : Nat} {queries : List String}
    (hlength : queries.length ≤ capacity + 1) :
    (dropExcess capacity queries).length ≤ capacity := by
  rw [dropExcess_eq_drop hlength, List.length_drop]
  omega

/-! ## The end of a list of queries -/

theorem suffix_concat {queries all : List String} (hsuffix : queries <:+ all)
    (query : String) : queries ++ [query] <:+ all ++ [query] := by
  rcases hsuffix with ⟨dropped, rfl⟩
  exact ⟨dropped, (List.append_assoc dropped queries [query]).symm⟩

theorem suffix_erase_of_notMem {queries all : List String}
    (hsuffix : queries <:+ all) {query : String} (hquery : query ∉ queries) :
    queries <:+ all.erase query := by
  rcases hsuffix with ⟨dropped, rfl⟩
  rw [List.erase_append]
  split
  · exact List.suffix_append _ queries
  · rw [List.erase_of_not_mem hquery]
    exact List.suffix_append dropped queries

theorem suffix_erase {queries all : List String} (hsuffix : queries <:+ all)
    (hall : all.Nodup) (query : String) :
    queries.erase query <:+ all.erase query := by
  by_cases hquery : query ∈ queries
  · rcases hsuffix with ⟨dropped, rfl⟩
    have hdropped : query ∉ dropped := by
      intro hmem
      exact (List.nodup_append.mp hall).2.2 query hmem query hquery rfl
    rw [List.erase_append_right _ hdropped]
    exact List.suffix_append dropped _
  · rw [List.erase_of_not_mem hquery]
    exact suffix_erase_of_notMem hsuffix hquery

/-! ## The machine -/

section Machine

variable (compiler : Compiler α) (capacity : Nat)

def get (table : MemoTable) (query : String) : MemoTable :=
  if query ∈ table.queries then
    { table with
      queries := table.queries.erase query ++ [query]
      hits := table.hits + 1 }
  else if compiler.Compiles query ∧ 0 < capacity then
    { table with
      queries := dropExcess capacity (table.queries ++ [query])
      misses := table.misses + 1 }
  else { table with misses := table.misses + 1 }

/-- The table only tells which queries it holds; predicates always come from the
compiler. -/
def call (table : MemoTable) : CacheCall → CacheAnswer α × MemoTable
  | .get query =>
      (.result (compiler.compile query), table.get compiler capacity query)
  | .contains query => (.truth (decide (query ∈ table.queries)), table)
  | .invalidate query =>
      (.truth (decide (query ∈ table.queries)),
        { table with queries := table.queries.erase query })
  | .clear => (.done, { table with queries := [] })

def view (table : MemoTable) : CacheView where
  size := table.queries.length
  isEmpty := table.queries.isEmpty
  stats := ⟨table.hits, table.misses, table.queries.length⟩
  contains query := decide (query ∈ table.queries)

def machine : CacheMachine α MemoTable where
  call := call compiler capacity
  view := view

end Machine

/-! ## One get -/

section Get

variable {compiler : Compiler α} {capacity : Nat} {table : MemoTable}
variable {query : String}

theorem get_of_mem (hquery : query ∈ table.queries) :
    table.get compiler capacity query =
      { table with
        queries := table.queries.erase query ++ [query]
        hits := table.hits + 1 } := by
  rw [get, if_pos hquery]

theorem get_of_compiles (hquery : query ∉ table.queries)
    (hcompiles : compiler.Compiles query) (hcapacity : 0 < capacity) :
    table.get compiler capacity query =
      { table with
        queries := dropExcess capacity (table.queries ++ [query])
        misses := table.misses + 1 } := by
  rw [get, if_neg hquery, if_pos ⟨hcompiles, hcapacity⟩]

theorem get_of_not_kept (hquery : query ∉ table.queries)
    (hother : ¬(compiler.Compiles query ∧ 0 < capacity)) :
    table.get compiler capacity query =
      { table with misses := table.misses + 1 } := by
  rw [get, if_neg hquery, if_neg hother]

/-- A query that compiles comes to stand behind the others, of which the first
is dropped if there is no room for it. Without capacity there are no others, and
the query itself is dropped. -/
theorem queries_get_of_notMem (hlength : table.queries.length ≤ capacity)
    (hquery : query ∉ table.queries) (hcompiles : compiler.Compiles query) :
    (table.get compiler capacity query).queries =
      (table.queries ++ [query]).drop
        (table.queries.length + 1 - capacity) := by
  by_cases hcapacity : 0 < capacity
  · have hroom : (table.queries ++ [query]).length ≤ capacity + 1 := by
      simpa using hlength
    rw [get_of_compiles hquery hcompiles hcapacity]
    simp only [dropExcess_eq_drop hroom, List.length_append,
      List.length_singleton]
  · have hnothing : table.queries = [] := by
      rw [← List.length_eq_zero_iff]
      omega
    have hzero : capacity = 0 := by
      omega
    rw [get_of_not_kept hquery (fun hkept => hcapacity hkept.2)]
    simp [hnothing, hzero]

theorem hits_get_of_notMem (hquery : query ∉ table.queries) :
    (table.get compiler capacity query).hits = table.hits := by
  rw [get, if_neg hquery]
  split <;> rfl

end Get

/-! ## Counting -/

section Counting

variable (compiler : Compiler α) (capacity : Nat)

theorem hits_add_misses_call (table : MemoTable) (call : CacheCall) :
    (table.call compiler capacity call).2.hits +
        (table.call compiler capacity call).2.misses =
      table.hits + table.misses + if call.isGet then 1 else 0 := by
  cases call with
  | contains query | invalidate query | clear => rfl
  | get query =>
      simp only [MemoTable.call, CacheCall.isGet, if_true, get]
      split
      · simp only
        omega
      · split <;> simp only <;> omega

theorem hits_add_misses_run (table : MemoTable) (calls : List CacheCall) :
    ((machine compiler capacity).run table calls).2.hits +
        ((machine compiler capacity).run table calls).2.misses =
      table.hits + table.misses + calls.countP CacheCall.isGet := by
  induction calls generalizing table with
  | nil => rfl
  | cons call rest ih =>
      have hrest := ih (table.call compiler capacity call).2
      rw [hits_add_misses_call] at hrest
      rw [List.countP_cons, Nat.add_comm (rest.countP _), ← Nat.add_assoc]
      exact hrest

end Counting

end MemoTable

end RecordFilter

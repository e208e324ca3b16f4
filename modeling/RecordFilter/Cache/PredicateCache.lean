import RecordFilter.Cache.RecencyList
import RecordFilter.Compiler

/-!
# Caching predicates

A cache keeps the predicates of the queries that were used last, up to a
capacity, and counts how often it could answer from memory. Queries that do not
compile are never kept, and without capacity nothing is.
-/

namespace RecordFilter

/-- How often a cache could answer from memory, and how many predicates it
keeps. -/
structure CacheStats where
  hits : Nat
  misses : Nat
  entries : Nat
  deriving DecidableEq

structure PredicateCache (α : Type) where
  compiler : Compiler α
  capacity : Nat
  entries : Std.HashMap String (Predicate α)
  recency : RecencyList
  hits : Nat
  misses : Nat

namespace PredicateCache

variable {α : Type}

def defaultCapacity : Nat := 256

def create (compiler : Compiler α) (capacity : Nat := defaultCapacity) :
    PredicateCache α where
  compiler := compiler
  capacity := capacity
  entries := ∅
  recency := .empty
  hits := 0
  misses := 0

/-- Drops the least recently used queries until the capacity is kept. -/
def shrink (cache : PredicateCache α) : PredicateCache α :=
  if cache.capacity < cache.recency.size then
    match _hevict : cache.recency.evict? with
    | none => cache
    | some (key, recency) =>
      shrink { cache with
        entries := cache.entries.erase key
        recency := recency }
  else cache
termination_by cache.recency.size
decreasing_by
  have := RecencyList.size_of_evict? _hevict
  omega

/-- Keeps a predicate as the one used last. -/
def store (cache : PredicateCache α) (query : String)
    (predicate : Predicate α) :
    PredicateCache α :=
  shrink { cache with
    entries := cache.entries.insert query predicate
    recency := cache.recency.touch query }

/-- The predicate of a query, from memory if it is there. -/
def get (cache : PredicateCache α) (query : String) :
    Except CompileError (Predicate α) × PredicateCache α :=
  match cache.entries[query]? with
  | some predicate =>
    (.ok predicate,
      { cache with
        hits := cache.hits + 1
        recency := cache.recency.touch query })
  | none =>
    let cache := { cache with misses := cache.misses + 1 }
    match cache.compiler.compile query with
    | .error error => (.error error, cache)
    | .ok predicate =>
      (.ok predicate,
        if cache.capacity = 0 then cache else cache.store query predicate)

def contains (cache : PredicateCache α) (query : String) : Bool :=
  cache.entries.contains query

/-- Forgets a query, and tells whether it was there. -/
def invalidate (cache : PredicateCache α) (query : String) :
    Bool × PredicateCache α :=
  (cache.entries.contains query,
    { cache with
      entries := cache.entries.erase query
      recency := (cache.recency.remove query).2 })

/-- Forgets all queries; the counters go on. -/
def clear (cache : PredicateCache α) : PredicateCache α :=
  { cache with entries := ∅, recency := .empty }

def size (cache : PredicateCache α) : Nat := cache.entries.size

def isEmpty (cache : PredicateCache α) : Bool := cache.entries.isEmpty

def stats (cache : PredicateCache α) : CacheStats where
  hits := cache.hits
  misses := cache.misses
  entries := cache.entries.size

end PredicateCache

end RecordFilter

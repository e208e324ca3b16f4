import Mathlib.Data.List.Dedup
import Mathlib.Data.List.DropRight
import RecordFilter.Proofs.Cache.Refinement

/-!
# Which requests are hits

While predicates are only asked for, a cache keeps the queries of the history
that compile and were asked for last, as many as it has room for. So a request
is a hit if its query was asked for before and not too many others since then:
the distance of the reuse has to be smaller than the capacity.
-/

namespace RecordFilter

variable {α : Type}

/-! ## Histories -/

namespace History

/-- The requests of a history since the last one for a query. -/
def sinceLast (query : String) (history : List String) : List String :=
  history.rtakeWhile (· != query)

theorem exists_append_sinceLast {query : String} {history : List String}
    (hquery : query ∈ history) :
    ∃ before, history = before ++ query :: sinceLast query history := by
  induction history using List.reverseRecOn with
  | nil => contradiction
  | append_singleton history last ih =>
      unfold sinceLast at ih ⊢
      by_cases hlast : last = query
      · rw [List.rtakeWhile_concat_neg _ _ _ (by simp [hlast])]
        exact ⟨history, by rw [hlast]⟩
      · rw [List.rtakeWhile_concat_pos _ _ _ (by simpa using hlast)]
        have hearlier : query ∈ history := by
          simpa [Ne.symm hlast] using hquery
        obtain ⟨before, hbefore⟩ := ih hearlier
        refine ⟨before, ?_⟩
        conv_lhs => rw [hbefore]
        simp

theorem notMem_sinceLast (query : String) (history : List String) :
    query ∉ sinceLast query history := by
  intro hmem
  simpa using List.mem_rtakeWhile_imp hmem

theorem dedup_concat (history : List String) (query : String) :
    (history ++ [query]).dedup = history.dedup.erase query ++ [query] := by
  induction history with
  | nil => simp
  | cons first rest ih =>
      rw [List.cons_append]
      by_cases hfirst : first ∈ rest
      · rw [List.dedup_cons_of_mem (List.mem_append_left _ hfirst), ih,
          List.dedup_cons_of_mem hfirst]
      by_cases hsame : first = query
      · subst hsame
        have hrest : first ∉ rest.dedup := by simpa using hfirst
        rw [List.dedup_cons_of_mem (by simp), ih,
          List.dedup_cons_of_notMem hfirst, List.erase_cons_head,
          List.erase_of_not_mem hrest]
      · rw [List.dedup_cons_of_notMem (by simp [hfirst, hsame]), ih,
          List.dedup_cons_of_notMem hfirst,
          List.erase_cons_tail (by simpa using hsame), List.cons_append]

end History

/-! ## The order of last requests -/

namespace Compiler

open History

/-- The queries of a history that compile, in the order of their last requests.
-/
def lastUses (compiler : Compiler α) (history : List String) : List String :=
  (history.filter (compiler.Compiles ·)).dedup

/-- The number of other queries that compile and were requested since the last
request for a query. -/
def reuseDistance (compiler : Compiler α) (history : List String)
    (query : String) : Nat :=
  (compiler.lastUses (sinceLast query history)).length

section LastUses

variable (compiler : Compiler α) {history : List String} {query : String}

theorem mem_lastUses :
    query ∈ compiler.lastUses history ↔
      query ∈ history ∧ compiler.Compiles query := by
  simp [lastUses]

theorem nodup_lastUses (history : List String) :
    (compiler.lastUses history).Nodup :=
  List.nodup_dedup _

theorem lastUses_concat_of_compiles (hcompiles : compiler.Compiles query) :
    compiler.lastUses (history ++ [query]) =
      (compiler.lastUses history).erase query ++ [query] := by
  rw [lastUses, List.filter_append,
    List.filter_cons_of_pos (by simpa using hcompiles), List.filter_nil,
    dedup_concat]
  rfl

theorem lastUses_concat_of_not_compiles
    (hfails : ¬compiler.Compiles query) :
    compiler.lastUses (history ++ [query]) = compiler.lastUses history := by
  rw [lastUses, List.filter_append,
    List.filter_cons_of_neg (by simpa using hfails), List.filter_nil,
    List.append_nil]
  rfl

/-- After a query come those that were requested since its last request. -/
theorem exists_lastUses_eq (hcompiles : compiler.Compiles query)
    (hquery : query ∈ history) :
    ∃ before, compiler.lastUses history =
      before ++ query :: compiler.lastUses (sinceLast query history) := by
  obtain ⟨earlier, hsplit⟩ := exists_append_sinceLast hquery
  have hnew : query ∉
      (sinceLast query history).filter (compiler.Compiles ·) := by
    intro hmem
    exact notMem_sinceLast query history (List.mem_of_mem_filter hmem)
  have hsuffix :
      query :: compiler.lastUses (sinceLast query history) <:+
        compiler.lastUses history := by
    unfold lastUses
    conv_rhs => rw [hsplit]
    rw [List.filter_append, List.filter_cons_of_pos (by simpa using hcompiles),
      List.dedup_append, List.dedup_cons_of_notMem hnew]
    exact List.suffix_union_right _ _
  obtain ⟨before, hbefore⟩ := hsuffix
  exact ⟨before, hbefore.symm⟩

end LastUses

end Compiler

/-! ## What a table keeps of a history -/

namespace MemoTable

variable (compiler : Compiler α) (capacity : Nat)

/-- The table after requests for the queries of a history. -/
def afterGets (history : List String) : MemoTable :=
  ((machine compiler capacity).run .empty (history.map .get)).2

theorem afterGets_concat (history : List String) (query : String) :
    afterGets compiler capacity (history ++ [query]) =
      (afterGets compiler capacity history).get compiler capacity query := by
  rw [afterGets, List.map_append, CacheMachine.run_append]
  rfl

/-- The queries are the last ones of some others, as many as there is room for.
-/
structure KeepsLast (capacity : Nat) (queries all : List String) : Prop where
  suffix : queries <:+ all
  length_eq : queries.length = min capacity all.length

namespace KeepsLast

variable {capacity : Nat} {queries all : List String} {query : String}

theorem moveToEnd (hkeeps : KeepsLast capacity queries all)
    (hall : all.Nodup) (hquery : query ∈ queries) :
    KeepsLast capacity (queries.erase query ++ [query])
      (all.erase query ++ [query]) := by
  constructor
  · apply suffix_concat
    exact suffix_erase hkeeps.suffix hall query
  · have hlength := hkeeps.length_eq
    have hpositive := List.length_pos_of_mem hquery
    simp only [List.length_append, List.length_erase_of_mem hquery,
      List.length_erase_of_mem (hkeeps.suffix.subset hquery),
      List.length_singleton]
    omega

theorem append (hkeeps : KeepsLast capacity queries all)
    (hquery : query ∉ queries) :
    KeepsLast capacity
      ((queries ++ [query]).drop (queries.length + 1 - capacity))
      (all.erase query ++ [query]) := by
  have hrest := suffix_erase_of_notMem hkeeps.suffix hquery
  constructor
  · exact (List.drop_suffix _ _).trans (suffix_concat hrest query)
  · have hlength := hkeeps.length_eq
    have hkept := hrest.length_le
    have hshorter : (all.erase query).length ≤ all.length :=
      List.length_erase_le
    have honeLess : all.length - 1 ≤ (all.erase query).length :=
      List.le_length_erase
    simp only [List.length_drop, List.length_append, List.length_singleton]
    omega

/-- The last ones reach back to a query if fewer come after it than there is
room for. -/
theorem mem_iff {before since : List String}
    (hkeeps : KeepsLast capacity queries (before ++ query :: since))
    (hsince : query ∉ since) :
    query ∈ queries ↔ since.length < capacity := by
  obtain ⟨hsuffix, hlength⟩ := hkeeps
  have htail : query :: since <:+ before ++ query :: since :=
    List.suffix_append _ _
  simp only [List.length_append, List.length_cons] at hlength
  constructor
  · intro hmem
    by_contra hfar
    have hshort : queries <:+ since :=
      List.suffix_of_suffix_length_le hsuffix
        ((List.suffix_cons query since).trans htail) (by omega)
    exact hsince (hshort.subset hmem)
  · intro hnear
    have hlong : query :: since <:+ queries :=
      List.suffix_of_suffix_length_le htail hsuffix
        (by simp only [List.length_cons]; omega)
    exact hlong.subset List.mem_cons_self

end KeepsLast

theorem keepsLast_get {history : List String} {table : MemoTable}
    (hkeeps : KeepsLast capacity table.queries (compiler.lastUses history))
    (query : String) :
    KeepsLast capacity (table.get compiler capacity query).queries
      (compiler.lastUses (history ++ [query])) := by
  by_cases hquery : query ∈ table.queries
  · have hcompiles : compiler.Compiles query :=
      ((compiler.mem_lastUses).mp (hkeeps.suffix.subset hquery)).2
    rw [get_of_mem hquery, compiler.lastUses_concat_of_compiles hcompiles]
    exact hkeeps.moveToEnd (compiler.nodup_lastUses history) hquery
  by_cases hcompiles : compiler.Compiles query
  · rw [compiler.lastUses_concat_of_compiles hcompiles]
    have hlength : table.queries.length ≤ capacity := by
      rw [hkeeps.length_eq]
      exact Nat.min_le_left _ _
    rw [queries_get_of_notMem hlength hquery hcompiles]
    exact hkeeps.append hquery
  · rw [compiler.lastUses_concat_of_not_compiles hcompiles,
      get_of_not_kept hquery (fun hkept => hcompiles hkept.1)]
    exact hkeeps

theorem keepsLast_afterGets (history : List String) :
    KeepsLast capacity (afterGets compiler capacity history).queries
      (compiler.lastUses history) := by
  induction history using List.reverseRecOn with
  | nil => exact ⟨List.suffix_refl [], (Nat.min_zero capacity).symm⟩
  | append_singleton history last ih =>
      rw [afterGets_concat]
      exact keepsLast_get compiler capacity ih last

theorem mem_afterGets_iff (history : List String) (query : String) :
    query ∈ (afterGets compiler capacity history).queries ↔
      compiler.Compiles query ∧ query ∈ history ∧
        compiler.reuseDistance history query < capacity := by
  have hkeeps := keepsLast_afterGets compiler capacity history
  by_cases hused : query ∈ compiler.lastUses history
  · obtain ⟨hquery, hcompiles⟩ := (compiler.mem_lastUses).mp hused
    obtain ⟨before, hsplit⟩ := compiler.exists_lastUses_eq hcompiles hquery
    rw [hsplit] at hkeeps
    have hsince : query ∉
        compiler.lastUses (History.sinceLast query history) := by
      intro hmem
      exact History.notMem_sinceLast query history
        ((compiler.mem_lastUses).mp hmem).1
    simp only [hkeeps.mem_iff hsince, hcompiles, hquery, true_and]
    rfl
  · have hgone : query ∉ (afterGets compiler capacity history).queries := by
      intro hmem
      exact hused (hkeeps.suffix.subset hmem)
    have hunused := mt (compiler.mem_lastUses).mpr hused
    constructor
    · intro hmem
      exact absurd hmem hgone
    · rintro ⟨hcompiles, hquery, -⟩
      exact absurd ⟨hquery, hcompiles⟩ hunused

theorem hits_get_eq_succ_iff (table : MemoTable) (query : String) :
    (table.get compiler capacity query).hits = table.hits + 1 ↔
      query ∈ table.queries := by
  unfold get
  split
  next hquery => simp [hquery]
  next hquery => split <;> simp [hquery]

end MemoTable

/-! ## Hits of a cache -/

/-- When a new cache has answered the requests of a history, the next request is
a hit if and only if its query compiles, is in the history, and fewer others
that compile than the capacity have been requested since it was last. -/
theorem PredicateCache.get_isHit_iff_reuseDistance_lt (compiler : Compiler α)
    (capacity : Nat) (history : List String) (query : String) :
    let cache := (machine.run (create compiler capacity) (history.map .get)).2
    (cache.get query).2.hits = cache.hits + 1 ↔
      compiler.Compiles query ∧ query ∈ history ∧
        compiler.reuseDistance history query < capacity := by
  intro cache
  obtain ⟨-, hcache⟩ := run_create compiler capacity (history.map .get)
  have hget := (hcache.get query).2
  rw [hget.hits_eq, hcache.hits_eq, MemoTable.hits_get_eq_succ_iff]
  exact MemoTable.mem_afterGets_iff compiler capacity history query

end RecordFilter

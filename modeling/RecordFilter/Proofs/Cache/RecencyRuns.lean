import RecordFilter.Proofs.Cache.Recency

/-!
# Runs of a recency list

A caller of a recency list never sees the table of positions. So the list is
called as a plain list of keys could be called, and every run of calls on the
one is held against the same run on the other. After any run the table tells the
index of each key.
-/

namespace RecordFilter

inductive RecencyCall where
  | touch (key : String)
  | evict
  | remove (key : String)
  | clear

inductive RecencyAnswer where
  | done
  | evicted (key : Option String)
  | removed (found : Bool)
  deriving DecidableEq

/-- The answer to a call, and what can be seen of the list after it. -/
structure RecencyReport where
  answer : RecencyAnswer
  size : Nat
  isEmpty : Bool
  deriving DecidableEq

namespace RecencyList

def call (list : RecencyList) : RecencyCall → RecencyAnswer × RecencyList
  | .touch key => (.done, list.touch key)
  | .evict =>
      match list.evict? with
      | none => (.evicted none, list)
      | some (key, rest) => (.evicted (some key), rest)
  | .remove key => (.removed (list.remove key).1, (list.remove key).2)
  | .clear => (.done, .empty)

def run (list : RecencyList) :
    List RecencyCall → List RecencyReport × RecencyList
  | [] => ([], list)
  | call :: rest =>
      let (answer, next) := list.call call
      let (reports, last) := next.run rest
      (⟨answer, next.size, next.isEmpty⟩ :: reports, last)

end RecencyList

/-! ## Plain lists of keys -/

namespace RecencyCall

def onKeys (keys : List String) : RecencyCall → RecencyAnswer × List String
  | touch key => (.done, keys.erase key ++ [key])
  | evict => (.evicted keys.head?, keys.tail)
  | remove key => (.removed (decide (key ∈ keys)), keys.erase key)
  | clear => (.done, [])

def runOnKeys (keys : List String) :
    List RecencyCall → List RecencyReport × List String
  | [] => ([], keys)
  | call :: rest =>
      let (answer, next) := call.onKeys keys
      let (reports, last) := runOnKeys next rest
      (⟨answer, next.length, next.isEmpty⟩ :: reports, last)

end RecencyCall

namespace RecencyList

namespace InStep

variable {list : RecencyList}

theorem getElem?_positions (hlist : list.InStep) (key : String) :
    list.positions[key]? = list.order.idxOf? key := by
  cases hindex : list.order.idxOf? key with
  | none => exact hlist.position_none key (List.idxOf?_eq_none_iff.mp hindex)
  | some index =>
      rcases List.idxOf?_eq_some_iff.mp hindex with ⟨hlt, hkey, -⟩
      exact
        hlist.position_eq index key (List.getElem?_eq_some_iff.mpr ⟨hlt, hkey⟩)

theorem mem_positions (hlist : list.InStep) (key : String) :
    key ∈ list.positions ↔ key ∈ list.order := by
  rw [Std.HashMap.mem_iff_isSome_getElem?, hlist.getElem?_positions,
    List.isSome_idxOf?]

theorem fst_remove (hlist : list.InStep) (key : String) :
    (list.remove key).1 = decide (key ∈ list.order) := by
  have hmem := hlist.mem_positions key
  rw [Std.HashMap.mem_iff_isSome_getElem?] at hmem
  rw [Bool.eq_iff_iff, decide_eq_true_iff, ← hmem]
  unfold RecencyList.remove
  cases list.positions[key]? with
  | none => simp
  | some position => simp

/-! ## One call, then any run -/

theorem call (hlist : list.InStep) (call : RecencyCall) :
    (list.call call).1 = (call.onKeys list.order).1 ∧
      (list.call call).2.order = (call.onKeys list.order).2 ∧
      (list.call call).2.InStep := by
  cases call with
  | touch key =>
      rcases hlist.touch key with ⟨htouched, horder⟩
      exact ⟨rfl, horder, htouched⟩
  | remove key =>
      rcases hlist.remove key with ⟨hothers, horder⟩
      refine ⟨?_, horder, hothers⟩
      simp only [RecencyList.call, RecencyCall.onKeys, hlist.fst_remove]
  | clear => exact ⟨rfl, rfl, inStep_empty⟩
  | evict =>
      cases hevict : list.evict? with
      | none =>
          have hnothing : list.order = [] := by
            unfold RecencyList.evict? at hevict
            split at hevict
            · assumption
            · contradiction
          simp only [RecencyList.call, hevict, RecencyCall.onKeys, hnothing]
          exact ⟨rfl, rfl, hlist⟩
      | some evicted =>
          rcases evicted with ⟨key, rest⟩
          rcases hlist.evict? hevict with ⟨hrest, horder⟩
          simp only [RecencyList.call, hevict, RecencyCall.onKeys, horder]
          exact ⟨rfl, rfl, hrest⟩

theorem run (hlist : list.InStep) (calls : List RecencyCall) :
    (list.run calls).1 = (RecencyCall.runOnKeys list.order calls).1 ∧
      (list.run calls).2.order =
        (RecencyCall.runOnKeys list.order calls).2 ∧
      (list.run calls).2.InStep := by
  induction calls generalizing list with
  | nil => exact ⟨rfl, rfl, hlist⟩
  | cons call rest ih =>
      rcases hlist.call call with ⟨hanswer, horder, hnext⟩
      rcases ih hnext with ⟨hreports, hlast, hinStep⟩
      rw [horder] at hreports hlast
      refine ⟨?_, hlast, hinStep⟩
      simp only [RecencyList.run, RecencyCall.runOnKeys, size,
        RecencyList.isEmpty, hanswer, horder, hreports]

end InStep

/-- Whatever is called on an empty recency list, the answers and sizes are those
of a plain list of keys, which the recency list holds in its order; no key is
listed twice, and the table holds the index of each listed key and no other
key. -/
theorem run_empty_eq_runOnKeys (calls : List RecencyCall) :
    (empty.run calls).1 = (RecencyCall.runOnKeys [] calls).1 ∧
      (empty.run calls).2.order = (RecencyCall.runOnKeys [] calls).2 ∧
      (empty.run calls).2.order.Nodup ∧
      (∀ key, key ∈ (empty.run calls).2.positions ↔
        key ∈ (empty.run calls).2.order) ∧
      ∀ key, (empty.run calls).2.positions[key]? =
        (empty.run calls).2.order.idxOf? key := by
  rcases inStep_empty.run calls with ⟨hreports, horder, hinStep⟩
  exact
    ⟨hreports, horder, hinStep.nodup, hinStep.mem_positions,
      hinStep.getElem?_positions⟩

end RecencyList

end RecordFilter

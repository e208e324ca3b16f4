import RecordFilter.Cache.RecencyList

/-!
# Recency lists in step

A recency list keeps its keys twice: in a list, and in a table of their
positions. The two stay in step under every operation, and what an operation
does to the list is what it would do to the list alone.
-/

namespace RecordFilter.RecencyList

/-! ## Corrected positions of keys that follow each other -/

theorem getElem?_reposition_of_notMem {keys : List String} {key : String}
    (hkey : key ∉ keys) (positions : Std.HashMap String Nat) (start : Nat) :
    (reposition positions start keys)[key]? = positions[key]? := by
  induction keys generalizing positions start with
  | nil => rfl
  | cons first rest ih =>
      rw [List.mem_cons, not_or] at hkey
      rw [reposition, ih hkey.2, Std.HashMap.getElem?_modify, if_neg]
      simpa using Ne.symm hkey.1

theorem getElem?_reposition_of_getElem? {keys : List String}
    (hnodup : keys.Nodup) {offset : Nat} {key : String}
    (hoffset : keys[offset]? = some key)
    (positions : Std.HashMap String Nat) (start : Nat) :
    (reposition positions start keys)[key]? =
      positions[key]?.map fun _ => start + offset := by
  induction keys generalizing positions start offset with
  | nil => simp at hoffset
  | cons first rest ih =>
      obtain ⟨hfirst, hrest⟩ := List.nodup_cons.mp hnodup
      cases offset with
      | zero =>
          obtain rfl : first = key := by simpa using hoffset
          rw [reposition, getElem?_reposition_of_notMem hfirst,
            Std.HashMap.getElem?_modify_self, Nat.add_zero]
      | succ offset =>
          rw [List.getElem?_cons_succ] at hoffset
          have hne : first ≠ key := by
            rintro rfl
            exact hfirst (List.mem_of_getElem? hoffset)
          rw [reposition, ih hrest hoffset, Std.HashMap.getElem?_modify,
            if_neg (by simpa using hne), Nat.add_right_comm, Nat.add_assoc]

/-! ## The invariant -/

/-- No key is listed twice, and the table holds exactly the listed keys, each
with its position in the list. -/
structure InStep (list : RecencyList) : Prop where
  nodup : list.order.Nodup
  position_eq : ∀ (position : Nat) (key : String),
    list.order[position]? = some key → list.positions[key]? = some position
  position_none : ∀ key : String,
    key ∉ list.order → list.positions[key]? = none

theorem inStep_empty : empty.InStep where
  nodup := List.nodup_nil
  position_eq position key hkey := by simp [empty] at hkey
  position_none key hkey := Std.HashMap.getElem?_empty

namespace InStep

variable {list : RecencyList} {key : String} {position : Nat}

theorem getElem?_of_position (hlist : list.InStep)
    (hposition : list.positions[key]? = some position) :
    list.order[position]? = some key := by
  by_cases hkey : key ∈ list.order
  · obtain ⟨other, hother⟩ := List.mem_iff_getElem?.mp hkey
    have hsame := hlist.position_eq other key hother
    rw [hposition, Option.some.injEq] at hsame
    rw [hsame]
    exact hother
  · rw [hlist.position_none key hkey] at hposition
    contradiction

/-! ## Taking a key out

The keys before the one that is taken out keep their positions; those after it
are given new ones.
-/

section Removal

variable {before after : List String}

theorem order_removeAt (horder : list.order = before ++ key :: after) :
    (list.removeAt key before.length).order = before ++ after := by
  simp [removeAt, horder, List.eraseIdx_append_of_length_le]

theorem positions_removeAt (horder : list.order = before ++ key :: after) :
    (list.removeAt key before.length).positions =
      reposition (list.positions.erase key) before.length after := by
  have hrest : (before ++ after).drop before.length = after := by simp
  have heraseIdx :
      list.order.eraseIdx before.length = before ++ after :=
    order_removeAt horder
  simp only [removeAt, heraseIdx, hrest]

theorem removeAt (hlist : list.InStep)
    (horder : list.order = before ++ key :: after) :
    (list.removeAt key before.length).InStep := by
  have hnodup := hlist.nodup
  rw [horder, List.nodup_append] at hnodup
  obtain ⟨hbefore, htail, hapart⟩ := hnodup
  obtain ⟨hkeyAfter, hafter⟩ := List.nodup_cons.mp htail
  refine ⟨?_, ?_, ?_⟩
  · rw [order_removeAt horder, List.nodup_append]
    refine ⟨hbefore, hafter, ?_⟩
    intro left hleft right hright
    exact hapart left hleft right (List.mem_cons_of_mem key hright)
  · intro index other hother
    rw [order_removeAt horder] at hother
    rw [positions_removeAt horder]
    by_cases hindex : index < before.length
    · rw [List.getElem?_append_left hindex] at hother
      have hmem : other ∈ before := List.mem_of_getElem? hother
      have hne : other ≠ key := hapart other hmem key List.mem_cons_self
      have hnotAfter : other ∉ after := by
        intro hafterMem
        exact hapart other hmem other (List.mem_cons_of_mem key hafterMem) rfl
      rw [getElem?_reposition_of_notMem hnotAfter, Std.HashMap.getElem?_erase,
        if_neg (by simpa using Ne.symm hne)]
      apply hlist.position_eq
      rw [horder, List.getElem?_append_left hindex]
      exact hother
    · rw [List.getElem?_append_right (Nat.le_of_not_lt hindex)] at hother
      have hne : key ≠ other := by
        rintro rfl
        exact hkeyAfter (List.mem_of_getElem? hother)
      -- The later keys have had positions, and these are what is corrected.
      have hold : list.positions[other]? =
          some (before.length + (index - before.length + 1)) := by
        apply hlist.position_eq
        rw [horder, List.getElem?_append_right (Nat.le_add_right ..),
          Nat.add_sub_cancel_left, List.getElem?_cons_succ]
        exact hother
      rw [getElem?_reposition_of_getElem? hafter hother,
        Std.HashMap.getElem?_erase, if_neg (by simpa using hne), hold,
        Option.map_some]
      congr 1
      omega
  · intro other hother
    rw [order_removeAt horder, List.mem_append, not_or] at hother
    rw [positions_removeAt horder, getElem?_reposition_of_notMem hother.2,
      Std.HashMap.getElem?_erase]
    by_cases hsame : key = other
    · simp [hsame]
    · rw [if_neg (by simpa using hsame)]
      apply hlist.position_none
      rw [horder]
      simp [hother.1, hother.2, Ne.symm hsame]

end Removal

theorem exists_split (hlist : list.InStep)
    (hposition : list.positions[key]? = some position) :
    ∃ before after,
      list.order = before ++ key :: after ∧ before.length = position := by
  have hget := hlist.getElem?_of_position hposition
  obtain ⟨hlt, hkey⟩ := List.getElem?_eq_some_iff.mp hget
  refine
    ⟨list.order.take position, list.order.drop (position + 1), ?_, ?_⟩
  · rw [← hkey, List.getElem_cons_drop, List.take_append_drop]
  · rw [List.length_take]
    exact Nat.min_eq_left (Nat.le_of_lt hlt)

theorem erase_eq_append (hlist : list.InStep) {before after : List String}
    (horder : list.order = before ++ key :: after) :
    list.order.erase key = before ++ after := by
  have hnodup := hlist.nodup
  rw [horder] at hnodup ⊢
  have hkey : key ∉ before := by
    intro hmem
    exact (List.nodup_append.mp hnodup).2.2 key hmem key List.mem_cons_self rfl
  rw [List.erase_append_right _ hkey, List.erase_cons_head]

theorem remove (hlist : list.InStep) (key : String) :
    (list.remove key).2.InStep ∧
      (list.remove key).2.order = list.order.erase key := by
  unfold RecencyList.remove
  cases hposition : list.positions[key]? with
  | none =>
      have hkey : key ∉ list.order := by
        intro hmem
        obtain ⟨position, hget⟩ := List.mem_iff_getElem?.mp hmem
        rw [hlist.position_eq position key hget] at hposition
        contradiction
      exact ⟨hlist, (List.erase_of_not_mem hkey).symm⟩
  | some position =>
      obtain ⟨before, after, horder, rfl⟩ := hlist.exists_split hposition
      rw [hlist.erase_eq_append horder]
      exact ⟨hlist.removeAt horder, order_removeAt horder⟩

/-! ## Touching and evicting -/

/-- A new key at the end leaves the other keys where they are. -/
theorem append (hlist : list.InStep) (hkey : key ∉ list.order) :
    InStep
      ⟨list.order ++ [key], list.positions.insert key list.order.length⟩ := by
  refine ⟨?_, ?_, ?_⟩
  · rw [List.nodup_append]
    refine ⟨hlist.nodup, by simp, ?_⟩
    rintro other hother _ hlast rfl
    rw [List.mem_singleton] at hlast
    rw [hlast] at hother
    exact hkey hother
  · intro index other hother
    rw [Std.HashMap.getElem?_insert]
    by_cases hindex : index < list.order.length
    · rw [List.getElem?_append_left hindex] at hother
      have hne : key ≠ other := by
        rintro rfl
        exact hkey (List.mem_of_getElem? hother)
      rw [if_neg (by simpa using hne)]
      exact hlist.position_eq index other hother
    · rw [List.getElem?_append_right (Nat.le_of_not_lt hindex),
        List.getElem?_singleton] at hother
      split at hother
      next hlast =>
        rw [if_pos (by simpa using hother)]
        congr 1
        omega
      next => contradiction
  · intro other hother
    rw [List.mem_append, List.mem_singleton, not_or] at hother
    rw [Std.HashMap.getElem?_insert, if_neg (by simpa using Ne.symm hother.2)]
    exact hlist.position_none other hother.1

theorem touch (hlist : list.InStep) (key : String) :
    (list.touch key).InStep ∧
      (list.touch key).order = list.order.erase key ++ [key] := by
  obtain ⟨hothers, horder⟩ := hlist.remove key
  have hkey : key ∉ (list.remove key).2.order := by
    rw [horder]
    exact hlist.nodup.not_mem_erase
  exact ⟨hothers.append hkey, by rw [RecencyList.touch, horder]⟩

theorem evict? (hlist : list.InStep) {rest : RecencyList}
    (hevict : list.evict? = some (key, rest)) :
    rest.InStep ∧ list.order = key :: rest.order := by
  unfold RecencyList.evict? at hevict
  cases horder : list.order with
  | nil =>
      rw [horder] at hevict
      contradiction
  | cons first others =>
      simp only [horder, Option.some.injEq, Prod.mk.injEq] at hevict
      obtain ⟨rfl, rfl⟩ := hevict
      have hsplit : list.order = [] ++ first :: others := horder
      have hremoved := hlist.removeAt hsplit
      refine ⟨?_, rfl⟩
      simpa [RecencyList.removeAt, horder] using hremoved

end InStep

end RecordFilter.RecencyList

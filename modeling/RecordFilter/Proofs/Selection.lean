import Mathlib.Data.List.FinRange
import Mathlib.Data.List.Sort

/-!
# Items chosen from a list

Items are chosen from a list by a condition when they are those at the places
where the condition holds, taken in the order of the places. So the choice keeps
the order of the list, takes an item as often as it stands there, and leaves
nothing out.
-/

namespace RecordFilter

variable {α : Type}

/-- The chosen items are those at the places where the condition holds. -/
def IsSelection (passes : α → Prop) (items chosen : List α) : Prop :=
  ∃ places : List (Fin items.length), places.Pairwise (· < ·) ∧
    (∀ place, place ∈ places ↔ passes (items.get place)) ∧
    places.map items.get = chosen

/-- A condition chooses one list of items only. -/
theorem IsSelection.unique {passes : α → Prop} {items chosen other : List α}
    (hchosen : IsSelection passes items chosen)
    (hother : IsSelection passes items other) : chosen = other := by
  rcases hchosen with ⟨places, hascending, hplaces, rfl⟩
  rcases hother with ⟨otherPlaces, hotherAscending, hotherPlaces, rfl⟩
  have hmem : ∀ place, place ∈ places ↔ place ∈ otherPlaces := by
    intro place
    rw [hplaces, hotherPlaces]
  rw [hascending.eq_of_mem_iff hotherAscending hmem]

theorem isSelection_filter (test : α → Bool) (items : List α) :
    IsSelection (test · = true) items (items.filter test) := by
  refine
    ⟨(List.finRange items.length).filter (test ∘ items.get), ?_, ?_, ?_⟩
  · exact (List.pairwise_lt_finRange items.length).filter _
  · intro place
    simp [List.mem_filter]
  · rw [← List.filter_map, List.map_get_finRange]

theorem isSelection_iff {test : α → Bool} {items chosen : List α} :
    IsSelection (test · = true) items chosen ↔ items.filter test = chosen := by
  constructor
  · intro hchosen
    exact (isSelection_filter test items).unique hchosen
  · rintro rfl
    exact isSelection_filter test items

end RecordFilter

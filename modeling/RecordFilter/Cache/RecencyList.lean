import Std.Data.HashMap

/-!
# Recency lists

A recency list holds keys in the order of their last use. The position of each
key is kept beside the list, so that a key is found without a search; removing a
key moves all later ones down by one position.
-/

namespace RecordFilter

structure RecencyList where
  /-- The least recently used key first. -/
  order : List String
  positions : Std.HashMap String Nat

namespace RecencyList

def empty : RecencyList := ⟨[], ∅⟩

/-- Corrects the positions of some keys that follow each other in the list. A
key that has no position gets none. -/
def reposition (positions : Std.HashMap String Nat) :
    Nat → List String → Std.HashMap String Nat
  | _, [] => positions
  | position, key :: rest =>
    reposition (positions.modify key fun _ => position) (position + 1) rest

/-- Takes out the key at a position. -/
def removeAt (list : RecencyList) (key : String) (position : Nat) :
    RecencyList :=
  let order := list.order.eraseIdx position
  ⟨order, reposition (list.positions.erase key) position (order.drop position)⟩

/-- Takes out a key if it is in the list, and tells whether it was. -/
def remove (list : RecencyList) (key : String) : Bool × RecencyList :=
  match list.positions[key]? with
  | some position => (true, list.removeAt key position)
  | none => (false, list)

/-- Makes a key the most recently used one. -/
def touch (list : RecencyList) (key : String) : RecencyList :=
  let others := (list.remove key).2
  ⟨others.order ++ [key], others.positions.insert key others.order.length⟩

/-- Takes out the least recently used key. -/
def evict? (list : RecencyList) : Option (String × RecencyList) :=
  match list.order with
  | [] => none
  | key :: rest =>
    some (key, ⟨rest, reposition (list.positions.erase key) 0 rest⟩)

def size (list : RecencyList) : Nat := list.order.length

def isEmpty (list : RecencyList) : Bool := list.order.isEmpty

theorem size_of_evict? {list rest : RecencyList} {key : String}
    (hevict : list.evict? = some (key, rest)) :
    rest.size + 1 = list.size := by
  unfold evict? at hevict
  cases horder : list.order with
  | nil => simp [horder] at hevict
  | cons first others =>
    simp only [horder, Option.some.injEq, Prod.mk.injEq] at hevict
    obtain ⟨-, rfl⟩ := hevict
    simp [size, horder]

end RecencyList

end RecordFilter

/-!
# Lists without repetition

A `DistinctList` keeps its items in the order in which they first came. Inserting an item that is
there already changes nothing.
-/

namespace BluetoothDiscovery

/-- Items in the order of their first appearance, each once. -/
structure DistinctList (α : Type) where
  toList : List α
  nodup : toList.Nodup
deriving DecidableEq

namespace DistinctList

variable {α : Type}

/-- No item. -/
def empty : DistinctList α := ⟨[], .nil⟩

instance : EmptyCollection (DistinctList α) := ⟨empty⟩

instance : Inhabited (DistinctList α) := ⟨∅⟩

/-- The number of items. -/
def size (l : DistinctList α) : Nat := l.toList.length

variable [DecidableEq α]

/-- The list with an item at its end, unless it is there already. -/
def insert (l : DistinctList α) (a : α) : DistinctList α :=
  if h : a ∈ l.toList then l
  else ⟨l.toList ++ [a], by
    refine List.nodup_append.2 ⟨l.nodup, by simp, fun x hx y hy => ?_⟩
    rw [List.mem_singleton.1 hy]
    exact fun he => h (he ▸ hx)⟩

/-- The list with several items inserted in order. -/
def insertAll (l : DistinctList α) (items : List α) : DistinctList α :=
  items.foldl insert l

/-- The items of a list in the order of their first appearance. -/
def ofList (items : List α) : DistinctList α :=
  insertAll ∅ items

end DistinctList

end BluetoothDiscovery
